import Libteam.Spec.Basic

/-!
# `Libteam.Spec.Netlink`: team messages as the handlers read them

The handlers of `libteam.c` never see bytes on the wire: they see the attribute tables
libnl's `genlmsg_parse` and `nla_parse_nested` fill in. The model starts there. A message
is its generic-netlink command and its top-level attributes; a list attribute is the list
of its nested items; an item is the table of its nested attributes, or `none` when
`nla_parse_nested` fails on it.

A fixed-width attribute (an ifindex, the speed, the duplex, the option type) is given by
the value its libnl getter reads. A flag is given by its presence. The two string-carrying
attributes of an option item, its name and its data, are given by their payload bytes,
because `get_options_handler` reads the data attribute either as a `__u32` or as a string
depending on the type attribute, and reads the name as a C string that may run past the
payload and its zero padding when the payload holds no NUL (`nlaGetString`).

With no policy, `nla_parse_nested` does not fail: it only fills the table from the item's
attributes. The items `none` of `PortItem` and `OptionItem`, for a failed parse, are kept
for the code's branch on that failure, but no message a receive hands over holds one.

A receive on a socket (`nl_recvmsgs_default`) either fails, running no callback, or reads
a sequence of netlink messages and hands each to a callback: a data message to
`NL_CB_VALID`, an `NLMSG_ERROR` with code 0 to `NL_CB_ACK`, `NLMSG_DONE` to
`NL_CB_FINISH`, and an `NLMSG_ERROR` with a nonzero code to the error callback.
-/

set_option autoImplicit false

namespace Libteam

/-- libnl's `NLA_U32`. -/
def NLA_U32 : UInt32 := 3

/-- libnl's `NLA_STRING`. -/
def NLA_STRING : UInt32 := 5

/-- Modelled from the spec: `TEAM_CMD_OPTIONS_SET` (`linux/if_team.h`, not under `src/`),
the command code of set-option-list. -/
def TEAM_CMD_OPTIONS_SET : UInt8 := 1

/-- Modelled from the spec: `TEAM_CMD_OPTIONS_GET`, the command code of get-option-list. -/
def TEAM_CMD_OPTIONS_GET : UInt8 := 2

/-- Modelled from the spec: `TEAM_CMD_PORT_LIST_GET`, the command code of get-port-list. -/
def TEAM_CMD_PORT_LIST_GET : UInt8 := 3

/-- The attribute table of one port item. -/
structure PortAttrs where
  /-- `TEAM_ATTR_PORT_IFINDEX` -/
  ifindex : Option UInt32
  /-- `TEAM_ATTR_PORT_SPEED` -/
  speed : Option UInt32
  /-- `TEAM_ATTR_PORT_DUPLEX` -/
  duplex : Option UInt8
  /-- `TEAM_ATTR_PORT_LINKUP` is present -/
  linkup : Bool
  /-- `TEAM_ATTR_PORT_CHANGED` is present -/
  changed : Bool
  deriving DecidableEq, Repr

/-- One nested item of `TEAM_ATTR_LIST_PORT`: its attribute table, or `none` when
`nla_parse_nested` fails on it, which it does not with the NULL policy the handler
passes. -/
abbrev PortItem := Option PortAttrs

/-- The attribute table of one option item. -/
structure OptionAttrs where
  /-- the payload of `TEAM_ATTR_OPTION_NAME` -/
  name : Option (List UInt8)
  /-- `TEAM_ATTR_OPTION_TYPE` -/
  type : Option UInt32
  /-- the payload of `TEAM_ATTR_OPTION_DATA` -/
  data : Option (List UInt8)
  /-- `TEAM_ATTR_OPTION_CHANGED` is present -/
  changed : Bool
  deriving DecidableEq, Repr

/-- One nested item of `TEAM_ATTR_LIST_OPTION`, or `none` when `nla_parse_nested` fails
(never, with the NULL policy the handler passes). -/
abbrev OptionItem := Option OptionAttrs

/-- A team generic-netlink message: `genlmsghdr.cmd` and the top-level attributes. -/
structure NlMsg where
  cmd : UInt8
  /-- `TEAM_ATTR_TEAM_IFINDEX` -/
  teamIfindex : Option UInt32
  /-- `TEAM_ATTR_LIST_PORT` -/
  listPort : Option (List PortItem)
  /-- `TEAM_ATTR_LIST_OPTION` -/
  listOption : Option (List OptionItem)
  deriving DecidableEq, Repr

/-- The C string at the start of `p`: its bytes before the first NUL. -/
def cString (p : List UInt8) : List UInt8 := p.takeWhile (· != 0)

/-- `nla_get_string`: the C string at the start of a payload. libnl does not check that the
payload holds a NUL (the handlers give no policy). An attribute is padded with zeros to a
multiple of four bytes, so a payload with no NUL still ends in one when its length is not
a multiple of four; otherwise the string runs on past the attribute (`none`). -/
def nlaGetString (p : List UInt8) : Option (List UInt8) :=
  if 0 ∈ p ∨ p.length % 4 ≠ 0 then some (cString p) else none

/-- The bytes of a `__u32` in host (little-endian) order, as `memcpy` copies them. -/
def u32Bytes (v : UInt32) : List UInt8 :=
  [UInt8.ofNat v.toNat, UInt8.ofNat (v.toNat / 0x100), UInt8.ofNat (v.toNat / 0x10000),
    UInt8.ofNat (v.toNat / 0x1000000)]

/-- The `__u32` stored in host order in the first four bytes of `p`. -/
def u32OfBytes (p : List UInt8) : UInt32 :=
  UInt32.ofNat ((p.getD 0 0).toNat + 0x100 * (p.getD 1 0).toNat +
    0x10000 * (p.getD 2 0).toNat + 0x1000000 * (p.getD 3 0).toNat)

/-- `nla_get_u32` on a payload: the four bytes at its start. Past a payload of one to
three bytes they are the zero padding; an empty payload has none, and all four bytes lie
past the attribute (`none`). -/
def nlaGetU32 (p : List UInt8) : Option UInt32 :=
  if p = [] then none else some (u32OfBytes p)

theorem cString_not_mem (p : List UInt8) : 0 ∉ cString p := by
  intro h
  simpa using List.mem_takeWhile_imp h

theorem nlaGetString_not_mem {p s : List UInt8} (h : nlaGetString p = some s) : 0 ∉ s := by
  unfold nlaGetString at h
  split_ifs at h
  cases h
  exact cString_not_mem p

@[simp] theorem length_u32Bytes (v : UInt32) : (u32Bytes v).length = 4 := rfl

/-- Reading back the four host-order bytes of a `__u32` gives the `__u32`. -/
theorem u32OfBytes_u32Bytes (v : UInt32) : u32OfBytes (u32Bytes v) = v := by
  have hv := v.toNat_lt_size
  have h8 (n : Nat) : (UInt8.ofNat n).toNat = n % 256 := rfl
  have h32 (n : Nat) : (UInt32.ofNat n).toNat = n % 4294967296 := rfl
  simp only [u32OfBytes, u32Bytes, List.getD_cons_zero, List.getD_cons_succ, h8]
  apply UInt32.toNat.inj
  simp only [h32]
  simp only [UInt32.size] at hv
  omega

/-- `nla_get_u32` reads back the four host-order bytes of a `__u32`. -/
@[simp] theorem nlaGetU32_u32Bytes (v : UInt32) : nlaGetU32 (u32Bytes v) = some v := by
  rw [nlaGetU32, if_neg (by simp [u32Bytes]), u32OfBytes_u32Bytes]

/-- A kernel error reply's code, `nlmsgerr.error`: a negative errno value (a zero code is
an ack). -/
structure KernelErr where
  val : Int
  neg : val < 0
  deriving DecidableEq

/-- One netlink message a receive hands to a callback. -/
inductive NlPart where
  /-- a data message, for `NL_CB_VALID` -/
  | data (msg : NlMsg)
  /-- `NLMSG_ERROR` with code 0, for `NL_CB_ACK` -/
  | ack
  /-- `NLMSG_DONE`, for `NL_CB_FINISH` -/
  | done
  /-- `NLMSG_ERROR` with a nonzero code, for the error callback -/
  | error (e : KernelErr)
  deriving DecidableEq

/-- The outcome of one `nl_recvmsgs_default`. -/
inductive RecvOutcome where
  /-- the receive fails with a negative libnl code and runs no callback -/
  | fail (err : Int)
  /-- the receive reads these messages, in order -/
  | parts (ps : List NlPart)
  deriving DecidableEq

end Libteam
