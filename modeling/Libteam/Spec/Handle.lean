import Libteam.Spec.Netlink

/-!
# `Libteam.Spec.Handle`: the library context and its registries

`struct team_handle` (`libteam.c:40-60`) as the model keeps it, the records its three lists
hold, and the list primitives of `list.h`.

The lists are Lean lists in link order: `list_for_each_node_entry` walks a list front to
back, so the C loops over a list become `find?`, `filterMap` and folds over it. `list.h` is
not under `src/`, so `list_add`, `list_del` and `list_move_nodes` are modelled from the
spec, which keeps every collection in insertion order ("insertion order preserved",
"Handlers are invoked in registration order"): `list_add` puts the node at the end.

The handle keeps the fields the modelled functions read or write. The sockets themselves
are not fields: what a socket does is an input of the function that uses it (a send
result, the outcomes of its receives). Three fields record libnl state the code relies on:
`validCb`, the `NL_CB_VALID` callback `send_and_recv` installs on `nl_sock` (libnl keeps it
until the next `nl_socket_modify_cb`), `callbacksSet`, whether `team_init` has installed
the ack, finish and error callbacks and `event_handler`, and `eventConnected`, whether
`team_init` has connected the event socket, whose descriptor is -1 until then. The log function and
priority are not fields: no modelled function reads them, and the priority `team_alloc`
starts from is modelled on its own (`Libteam.Spec.Log`).

`trace` is ghost state, not a field of `struct team_handle`. The two handlers append the
list they install and `check_call_change_handlers` appends each dispatch with the calls it
made; nothing reads it. What happened since an earlier point of a run (which batch was
installed last, which dispatch cleared a category) is stated over it.
-/

set_option autoImplicit false

namespace Libteam

/-- `struct team_port`, without its list links. -/
structure TeamPort where
  ifindex : UInt32
  speed : UInt32
  duplex : UInt8
  linkup : Bool
  changed : Bool
  deriving DecidableEq, Repr

/-- What a `struct team_option` and its two buffers hold: the type tag, the C string in the
`name` buffer (which holds it and its NUL), the bytes of the `data` buffer, and the
`changed` flag. -/
structure TeamOption where
  type : TeamOptionType
  name : List UInt8
  data : List UInt8
  changed : Bool
  deriving DecidableEq, Repr

/-- A `struct team_option` at `addr`, whose `name` and `data` pointers are `nameAddr` and
`dataAddr`. -/
structure OptionNode where
  addr : Nat
  nameAddr : Nat
  dataAddr : Nat
  val : TeamOption
  deriving DecidableEq, Repr

/-- Modelled from the spec: `struct team_change_handler` (`team.h`), a callback with its
private data and its interest mask. The model keeps the pointer the caller passes, by
which the library tells handlers apart, and the mask; an invocation is recorded in the
trace, not run. -/
structure TeamChangeHandler where
  ptr : Nat
  typeMask : TeamChangeTypeMask
  deriving DecidableEq, Repr

/-- An entry of the ghost trace. -/
inductive ChangeEvent where
  /-- `get_port_list_handler` installed the port list of a message with these items -/
  | installPorts (items : List PortItem)
  /-- `get_options_handler` installed the option list of a message with these items -/
  | installOptions (items : List OptionItem)
  /-- `check_call_change_handlers(th, callTypeMask)` made these calls, in order -/
  | check (callTypeMask : TeamChangeTypeMask)
      (calls : List (TeamChangeHandler × TeamChangeTypeMask))
  deriving DecidableEq, Repr

/-- The custom `NL_CB_VALID` callbacks `send_and_recv` installs on `nl_sock`. -/
inductive ValidCb where
  /-- `get_port_list_handler` -/
  | portList
  /-- `get_options_handler` -/
  | options
  deriving DecidableEq, Repr

/-- `struct team_handle`, with the change-handler fields flattened. -/
structure TeamHandle where
  nlSockErr : Int
  family : Int
  ifindex : UInt32
  portList : List (Node TeamPort)
  optionList : List OptionNode
  /-- `change_handler.list` -/
  changeHandlerList : List (Node TeamChangeHandler)
  /-- `change_handler.pending_type_mask` -/
  pendingTypeMask : TeamChangeTypeMask
  validCb : Option ValidCb
  callbacksSet : Bool
  /-- whether `genl_connect(th->nl_sock_event)` has succeeded: until then
  `nl_socket_get_fd(th->nl_sock_event)` is -1 -/
  eventConnected : Bool
  heap : Heap
  trace : List ChangeEvent
  deriving DecidableEq, Repr

/-- The handle a successful `team_alloc` returns: zeroed by `memset`, with its three lists
initialised empty. -/
def teamAlloc : TeamHandle where
  nlSockErr := 0
  family := 0
  ifindex := 0
  portList := []
  optionList := []
  changeHandlerList := []
  pendingTypeMask := 0
  validCb := none
  callbacksSet := false
  eventConnected := false
  heap := ⟨0, [], []⟩
  trace := []

/-! ### `list.h` -/

/-- Modelled from the spec: `list_add(head, node)` (`list.h`, not under `src/`). The spec
keeps each collection in insertion order, so the node goes to the end. -/
def listAdd {α : Type} (l : List α) (x : α) : List α := l ++ [x]

/-- Modelled from the spec: `list_del(node)`, the node leaves its list. -/
def listDel {α : Type} [DecidableEq α] (l : List α) (x : α) : List α := l.erase x

/-- Modelled from the spec: `list_move_nodes(dst, src)`, the nodes of `src` join `dst`
after its own. -/
def listMoveNodes {α : Type} (dst src : List α) : List α := dst ++ src

/-- The entry after the first entry of `l` at address `a`, or NULL after the last entry;
`none` when no entry of `l` is at `a`. -/
def listNextAfter {β : Type} (addr : β → Nat) : List β → Nat → Option (Option β)
  | [], _ => none
  | x :: rest, a => if addr x = a then some rest.head? else listNextAfter addr rest a

/-- Modelled from the spec: `list_get_next_node_entry(head, node, member)` (`list.h`), the
first entry when `node` is NULL and otherwise the entry `node`'s `next` link points at,
NULL past the last entry. `node` is given by its address and its successor in link order
is where its link points while the list's addresses are distinct. `none` when `node` is
not an entry of the list: the code would follow a link of memory the list does not hold. -/
def listGetNextNodeEntry {β : Type} (addr : β → Nat) (l : List β) :
    Option Nat → Option (Option β)
  | none => some l.head?
  | some a => listNextAfter addr l a

@[simp] theorem listAdd_eq {α : Type} (l : List α) (x : α) : listAdd l x = l ++ [x] := rfl

@[simp] theorem listMoveNodes_eq {α : Type} (dst src : List α) :
    listMoveNodes dst src = dst ++ src := rfl

end Libteam
