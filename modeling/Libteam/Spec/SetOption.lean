import Libteam.Spec.Context

/-!
# `Libteam.Spec.SetOption`: the option setters

`set_option_value` (`libteam.c:843-895`) maps the option type to a netlink attribute type
(`TEAM_OPTION_TYPE_U32` to `NLA_U32`, `TEAM_OPTION_TYPE_STRING` to `NLA_STRING`), builds a
`TEAM_CMD_OPTIONS_SET` request for the handle's device that holds one option item (the
name, the attribute type and the data), and sends it with `send_and_recv` and no valid
callback of its own. It never writes the option list: an answer of the kernel reaches the
registry only through the callbacks already installed on the socket.

The two pointers `set_option_value` takes are given by the memory they point at, from the
pointer on. `opt_name` is a C string. `data` is read as a `__u32` for `NLA_U32` and as a C
string for `NLA_STRING`. `NLA_PUT_STRING` puts the string and its NUL (`strlen + 1`
bytes), and `NLA_PUT_U32` puts the four bytes of the value in host order.

`opt_type` is an `int` in C. The model gives it as the `enum team_option_type` value that
both callers pass, so the `default:` arm of the first switch, a return of `-ENOENT`, is
for values no caller passes. The second switch is over the attribute type the first one
chose, and its `default:` (a jump to `nla_put_failure`) is modelled as it stands.

Whether the attributes fit in the message `nlmsg_alloc` returned is an input, `room`.
`nla_nest_start` and the `NLA_PUT_*` macros fail when they do not fit, and the code then
returns `-ENOBUFS`.
-/

set_option autoImplicit false

namespace Libteam

/-- `nla_put_string`, as the payload it puts: the C string at `s` and its NUL. -/
def nlaPutString (s : List UInt8) : List UInt8 := cString s ++ [0]

/-- The first `switch (opt_type)` of `set_option_value`. -/
def optionNlaType : TeamOptionType → UInt32
  | .u32 => NLA_U32
  | .string => NLA_STRING

/-- The second `switch (nla_type)` of `set_option_value`: the payload of
`TEAM_ATTR_OPTION_DATA`, or `none` at its `default:`. -/
def setOptionData (nlaType : UInt32) (data : List UInt8) : Option (List UInt8) :=
  if nlaType = NLA_U32 then some (u32Bytes (u32OfBytes data))
  else if nlaType = NLA_STRING then some (nlaPutString data)
  else none

/-- The option item of `set_option_value`'s request, as an attribute table: the name, the
attribute type and the data, with no `TEAM_ATTR_OPTION_CHANGED`. -/
def setOptionItem (optName data : List UInt8) (nlaType : UInt32) : Option OptionAttrs :=
  (setOptionData nlaType data).map fun payload =>
    ⟨some (nlaPutString optName), some nlaType, some payload, false⟩

/-- The request of `set_option_value`: `TEAM_CMD_OPTIONS_SET` with the handle's ifindex and
a `TEAM_ATTR_LIST_OPTION` of one item. -/
def setOptionRequest (th : TeamHandle) (optName data : List UInt8) (nlaType : UInt32) :
    Option NlMsg :=
  (setOptionItem optName data nlaType).map fun item =>
    ⟨TEAM_CMD_OPTIONS_SET, some th.ifindex, none, some [some item]⟩

/-- `set_option_value`, with its return value and the handle after it. `rt.msgAlloc` is
whether `nlmsg_alloc` succeeds and `room` whether the attributes fit in the message. -/
def setOptionValue (oom : Nat → Bool) (rt : RoundTrip) (room : Bool) (th : TeamHandle)
    (optName data : List UInt8) (optType : TeamOptionType) : Except Stop (Int × TeamHandle) :=
  if !rt.msgAlloc then .ok (-ENOMEM, th)
  else
    match setOptionRequest th optName data (optionNlaType optType) with
    | none => .ok (-ENOBUFS, th)
    | some _ =>
      if !room then .ok (-ENOBUFS, th)
      else sendAndRecv oom rt.sendErr none rt.replies th

/-- `team_set_option_value_by_name_u32`: `&val` points at the four host-order bytes of
`val`. -/
def teamSetOptionValueByNameU32 (oom : Nat → Bool) (rt : RoundTrip) (room : Bool)
    (th : TeamHandle) (name : List UInt8) (val : UInt32) : Except Stop (Int × TeamHandle) :=
  setOptionValue oom rt room th name (u32Bytes val) .u32

/-- `team_set_option_value_by_name_string`. -/
def teamSetOptionValueByNameString (oom : Nat → Bool) (rt : RoundTrip) (room : Bool)
    (th : TeamHandle) (name str : List UInt8) : Except Stop (Int × TeamHandle) :=
  setOptionValue oom rt room th name str .string

/-- `team_set_mode_name`. -/
def teamSetModeName (oom : Nat → Bool) (rt : RoundTrip) (room : Bool) (th : TeamHandle)
    (modeName : List UInt8) : Except Stop (Int × TeamHandle) :=
  teamSetOptionValueByNameString oom rt room th (cstr "mode" ++ [0]) modeName

/-- `team_set_active_port`. -/
def teamSetActivePort (oom : Nat → Bool) (rt : RoundTrip) (room : Bool) (th : TeamHandle)
    (ifindex : UInt32) : Except Stop (Int × TeamHandle) :=
  teamSetOptionValueByNameU32 oom rt room th (cstr "activeport" ++ [0]) ifindex

end Libteam
