import Libteam.Spec.ChangeHandlers

/-!
# `Libteam.Spec.Ports`: the port registry

`get_port_list_handler` (`libteam.c:340-399`) decodes a port-list message. It ignores a
message for another team device or without `TEAM_ATTR_LIST_PORT`. Otherwise it builds the
new ports in a local `tmp_list`, item by item, and returns `NL_SKIP` as soon as an item
fails to parse, lacks `TEAM_ATTR_PORT_IFINDEX` or its `malloc` fails: the nodes already in
`tmp_list` are then neither installed nor freed. When the loop completes, the old list is
flushed, `tmp_list` takes its place and the PORT category is marked pending.

The handler always returns `NL_SKIP`, which only tells libnl to go on with the next
message, so the model returns the new handle alone.
-/

set_option autoImplicit false

namespace Libteam

/-- `flush_port_list`: every port node is unlinked and freed. -/
def flushPortList (th : TeamHandle) : TeamHandle :=
  { th with portList := [], heap := th.portList.foldl (fun h p => h.free p.addr) th.heap }

/-- The port an item with `ifindex` yields: the zeroes of `memset`, then each attribute
that is present. -/
def TeamPort.ofAttrs (ifindex : UInt32) (attrs : PortAttrs) : TeamPort where
  ifindex := ifindex
  speed := attrs.speed.getD 0
  duplex := attrs.duplex.getD 0
  linkup := attrs.linkup
  changed := attrs.changed

/-- The `nla_for_each_nested` loop of `get_port_list_handler`, from the nodes `tmp` built
so far: the finished `tmp_list`, or `none` when the handler returns `NL_SKIP` in the
middle of the batch, with the heap as it is then. -/
def portItemsLoop (oom : Nat → Bool) :
    List PortItem → Heap → List (Node TeamPort) → Option (List (Node TeamPort)) × Heap
  | [], heap, tmp => (some tmp, heap)
  | none :: _, heap, _ => (none, heap)
  | some attrs :: items, heap, tmp =>
    match attrs.ifindex with
    | none => (none, heap)
    | some ifindex =>
      match heap.malloc oom with
      | (none, heap) => (none, heap)
      | (some addr, heap) =>
        portItemsLoop oom items heap (listAdd tmp ⟨addr, TeamPort.ofAttrs ifindex attrs⟩)

/-- `get_port_list_handler`. -/
def getPortListHandler (oom : Nat → Bool) (msg : NlMsg) (th : TeamHandle) : TeamHandle :=
  if msg.teamIfindex.getD 0 ≠ th.ifindex then th
  else
    match msg.listPort with
    | none => th
    | some items =>
      match portItemsLoop oom items th.heap [] with
      | (none, heap) => { th with heap := heap }
      | (some tmp, heap) =>
        let th := flushPortList { th with heap := heap }
        setCallChangeHandlers TEAM_PORT_CHANGE
          { th with
            portList := listMoveNodes th.portList tmp
            trace := th.trace ++ [.installPorts items] }

/-- `team_get_next_port`: the port after `port`, the first one for NULL. -/
def teamGetNextPort (th : TeamHandle) (port : Option Nat) : Option (Option (Node TeamPort)) :=
  listGetNextNodeEntry (·.addr) th.portList port

end Libteam
