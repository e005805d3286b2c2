import Libteam.Spec.Handle

/-!
# `Libteam.Spec.Link`: the link-management calls

The functions of `libteam.c:1019-1080` and `libteam.c:1391-1571` go through libnl's route
layer on `nl_cli.sock`. What the kernel and libnl answer is an input of each function: the
result of `nl_cache_refill` and what the refilled link cache holds, whether
`rtnl_link_alloc` and `nl_addr_build` succeed, and the code each request returns. Each
function gives its return value and the requests it sends, in order.

`do_create` (`libteam.c:1019-1048`) is the one with a control flow of its own: for a
recreate of a name that the link cache knows, it deletes that link first, and a failed
delete ends it. `rtnl_link_set_type(link, "team")` runs after the delete and sends
nothing; when it fails, `do_create` returns its error without sending the add.

`team_hwaddr_get` copies the address into the caller's buffer `addr`, given here by the
bytes it holds, and only when the link's address has exactly `addr_len` bytes.
-/

set_option autoImplicit false

namespace Libteam

/-- A request on the route socket. -/
inductive LinkRequest where
  /-- `rtnl_link_delete` of the link with this name. -/
  | deleteName (name : List UInt8)
  /-- `rtnl_link_add` of a team link with `NLM_F_CREATE | NLM_F_EXCL`, named or left for
  the kernel to name. -/
  | addTeam (name : Option (List UInt8))
  /-- `rtnl_link_enslave_ifindex`. -/
  | enslave (master port : UInt32)
  /-- `rtnl_link_release_ifindex`. -/
  | release (port : UInt32)
  /-- `rtnl_link_change` of the hardware address of a link. -/
  | setAddr (ifindex : UInt32) (addr : List UInt8)
  deriving DecidableEq, Repr

/-! ### The link cache -/

/-- `team_ifname2ifindex`: 0 when the cache refill fails, else the index
`rtnl_link_name2i` finds for the name (0 for none). -/
def teamIfname2ifindex (refillErr : Int) (name2i : UInt32) : UInt32 :=
  if refillErr ≠ 0 then 0 else name2i

/-- `team_ifindex2ifname`: `NULL` when the cache refill fails, else what `rtnl_link_i2name`
returns for the index. -/
def teamIfindex2ifname (refillErr : Int) (i2name : Option (List UInt8)) :
    Option (List UInt8) :=
  if refillErr ≠ 0 then none else i2name

/-! ### Creating a team device -/

/-- The answers to the calls `do_create` makes. -/
structure CreateEnv where
  /-- whether `rtnl_link_alloc` succeeds -/
  linkAlloc : Bool
  /-- what `nl_cache_refill` returns in `team_ifname2ifindex` -/
  refillErr : Int
  /-- the index `rtnl_link_name2i` finds for the name -/
  name2i : UInt32
  /-- what `rtnl_link_delete` returns -/
  deleteErr : Int
  /-- what `rtnl_link_set_type` returns -/
  setTypeErr : Int
  /-- what `rtnl_link_add` returns -/
  addErr : Int
  deriving DecidableEq, Repr

/-- The link `do_create` deletes before it creates: a recreate of a name that
`team_ifname2ifindex` resolves. -/
def doCreateDelete (env : CreateEnv) (teamName : Option (List UInt8)) (recreate : Bool) :
    Option (List UInt8) :=
  match teamName with
  | some name =>
    if recreate && teamIfname2ifindex env.refillErr env.name2i != 0 then some name else none
  | none => none

/-- `do_create`: its return value and the requests it sends. -/
def doCreate (env : CreateEnv) (teamName : Option (List UInt8)) (recreate : Bool) :
    Int × List LinkRequest :=
  if !env.linkAlloc then (-ENOMEM, [])
  else
    match doCreateDelete env teamName recreate with
    | some name =>
      if env.deleteErr ≠ 0 then (-nl2syserr env.deleteErr, [.deleteName name])
      else if env.setTypeErr ≠ 0 then (-nl2syserr env.setTypeErr, [.deleteName name])
      else (-nl2syserr env.addErr, [.deleteName name, .addTeam teamName])
    | none =>
      if env.setTypeErr ≠ 0 then (-nl2syserr env.setTypeErr, [])
      else (-nl2syserr env.addErr, [.addTeam teamName])

/-- `team_create`. -/
def teamCreate (env : CreateEnv) (teamName : Option (List UInt8)) : Int × List LinkRequest :=
  doCreate env teamName false

/-- `team_recreate`. -/
def teamRecreate (env : CreateEnv) (teamName : Option (List UInt8)) :
    Int × List LinkRequest :=
  doCreate env teamName true

/-! ### Ports and hardware addresses -/

/-- `team_port_add`: the port is enslaved to the handle's device. -/
def teamPortAdd (enslaveErr : Int) (th : TeamHandle) (portIfindex : UInt32) :
    Int × LinkRequest :=
  (-nl2syserr enslaveErr, .enslave th.ifindex portIfindex)

/-- `team_port_remove`. -/
def teamPortRemove (releaseErr : Int) (portIfindex : UInt32) : Int × LinkRequest :=
  (-nl2syserr releaseErr, .release portIfindex)

/-- `team_hwaddr_set`: `nl_addr_build` copies the first `addr_len` bytes at `addr`.
`addrBuild` is whether it succeeds, `changeErr` what `rtnl_link_change` returns. -/
def teamHwaddrSet (linkAlloc addrBuild : Bool) (changeErr : Int) (ifindex : UInt32)
    (addr : List UInt8) (addrLen : Nat) : Int × Option LinkRequest :=
  if !linkAlloc then (-ENOMEM, none)
  else if !addrBuild then (-ENOMEM, none)
  else (-nl2syserr changeErr, some (.setAddr ifindex (addr.take addrLen)))

/-- A link as `rtnl_link_get_kernel` returns it: its hardware address, if it has one. -/
structure KernelLink where
  addr : Option (List UInt8)
  deriving DecidableEq, Repr

/-- `team_hwaddr_get`: the return value and the bytes of the buffer `addr` after it.
`getErr` is what `rtnl_link_get_kernel` returns and `link` the link it returns. -/
def teamHwaddrGet (getErr : Int) (link : KernelLink) (addr : List UInt8) (addrLen : Nat) :
    Int × List UInt8 :=
  if getErr ≠ 0 then (-nl2syserr getErr, addr)
  else
    match link.addr with
    | none => (-ENOENT, addr)
    | some a => if a.length ≠ addrLen then (-EINVAL, addr) else (0, a ++ addr.drop addrLen)

/-- `team_hwaddr_len_get`. -/
def teamHwaddrLenGet (getErr : Int) (link : KernelLink) : Int :=
  if getErr ≠ 0 then -nl2syserr getErr
  else
    match link.addr with
    | none => -ENOENT
    | some a => a.length

end Libteam
