import Libteam.Spec.Ports
import Libteam.Spec.Options

/-!
# `Libteam.Spec.Context`: round trips, events and the context functions

`send_and_recv` (`libteam.c:164-190`) sends a request on `nl_sock`, sets `nl_sock_err` to
1, installs the valid callback it is given and receives while `nl_sock_err > 0`. Only the
callbacks `team_init` installs (`ack_handler`, `finish_handler`, `error_handler`) write
`nl_sock_err`; the return value of `nl_recvmsgs_default` is not read. `get_port_list` and
`get_options` are one round trip each, followed by a dispatch of their category when it
returns 0. `team_init` (`libteam.c:1117-1183`) writes `th->ifindex` first, connects,
resolves the family and the multicast group, installs the callbacks and fetches both
lists. `team_process_event` is one receive on the event socket and a dispatch of every
category; `team_check_events` polls with a zero timeout and processes events while the
socket is readable. Both use the event socket as `team_init` left it: its descriptor is -1
until `genl_connect` on it succeeds.

Every outcome of the kernel and of libnl is an input: a send result, the outcome of each
receive, the result of each call `team_init` makes, the result of each `select`. A loop
over receives or polls consumes its outcomes in order; when they run out before it
returns, the result is `Stop.unfinished`.
-/

set_option autoImplicit false

namespace Libteam

/-- The handler a `ValidCb` names. -/
def ValidCb.run (oom : Nat → Bool) : ValidCb → NlMsg → TeamHandle → Except Stop TeamHandle
  | .portList, msg, th => .ok (getPortListHandler oom msg th)
  | .options, msg, th => getOptionsHandler oom msg th

/-- `event_handler`: an event goes to the handler of its command; any other command is
skipped. -/
def eventHandler (oom : Nat → Bool) (msg : NlMsg) (th : TeamHandle) :
    Except Stop TeamHandle :=
  if msg.cmd = TEAM_CMD_PORT_LIST_GET then .ok (getPortListHandler oom msg th)
  else if msg.cmd = TEAM_CMD_OPTIONS_GET then getOptionsHandler oom msg th
  else .ok th

/-- `nl_recvmsgs_default` reading `parts` on a socket whose `NL_CB_VALID` callback is
`valid` (`none`: libnl's default, which skips the message) and whose ack, finish and error
callbacks are `team_init`'s when `custom` holds. `ack_handler` sets `nl_sock_err` to 0 and
stops the receive (`NL_STOP`); `finish_handler` sets it to 0 and `error_handler` to the
kernel's code, and both go on (`NL_SKIP`). libnl's defaults skip an ack or done message
and stop at an error reply. -/
def nlRecvmsgs (valid : Option (NlMsg → TeamHandle → Except Stop TeamHandle)) (custom : Bool) :
    List NlPart → TeamHandle → Except Stop TeamHandle
  | [], th => .ok th
  | .data msg :: ps, th =>
    match valid with
    | none => nlRecvmsgs valid custom ps th
    | some f => f msg th >>= nlRecvmsgs valid custom ps
  | .ack :: ps, th =>
    if custom then .ok { th with nlSockErr := 0 } else nlRecvmsgs valid custom ps th
  | .done :: ps, th =>
    nlRecvmsgs valid custom ps (if custom then { th with nlSockErr := 0 } else th)
  | .error e :: ps, th =>
    if custom then nlRecvmsgs valid custom ps { th with nlSockErr := e.val } else .ok th

/-- `nl_recvmsgs_default(th->nl_sock)`. A failed receive runs no callback. -/
def nlRecvmsgsDefault (oom : Nat → Bool) (o : RecvOutcome) (th : TeamHandle) :
    Except Stop TeamHandle :=
  match o with
  | .fail _ => .ok th
  | .parts ps => nlRecvmsgs (th.validCb.map (ValidCb.run oom)) th.callbacksSet ps th

/-- `nl_recvmsgs_default(th->nl_sock_event)`: `event_handler` once `team_init` has
installed it, libnl's defaults for the rest. On an event socket never connected the
receive fails, whatever `o` says, and runs no callback. -/
def nlRecvmsgsDefaultEvent (oom : Nat → Bool) (o : RecvOutcome) (th : TeamHandle) :
    Except Stop TeamHandle :=
  if !th.eventConnected then .ok th
  else
    match o with
    | .fail _ => .ok th
    | .parts ps =>
      nlRecvmsgs (if th.callbacksSet then some (eventHandler oom) else none) false ps th

/-- The loop `while (th->nl_sock_err > 0) nl_recvmsgs_default(th->nl_sock)` over the
outcomes of its receives, with the outcomes it leaves unread. -/
def recvLoop (oom : Nat → Bool) :
    List RecvOutcome → TeamHandle → Except Stop (TeamHandle × List RecvOutcome)
  | [], th => if 0 < th.nlSockErr then .error .unfinished else .ok (th, [])
  | o :: outs, th =>
    if 0 < th.nlSockErr then nlRecvmsgsDefault oom o th >>= recvLoop oom outs
    else .ok (th, o :: outs)

/-- `send_and_recv(th, msg, valid_handler, th)`, where `nl_send_auto_complete` returns
`sendErr` and the receives have the outcomes `replies`: the return value and the handle. -/
def sendAndRecv (oom : Nat → Bool) (sendErr : Int) (valid : Option ValidCb)
    (replies : List RecvOutcome) (th : TeamHandle) : Except Stop (Int × TeamHandle) :=
  if sendErr < 0 then .ok (-nl2syserr sendErr, th)
  else do
    let (th, _) ← recvLoop oom replies
      { th with nlSockErr := 1, validCb := valid <|> th.validCb }
    pure (th.nlSockErr, th)

/-- What one request on `nl_sock` meets: whether `nlmsg_alloc` succeeds, what
`nl_send_auto_complete` returns, and the outcomes of the receives that follow. -/
structure RoundTrip where
  msgAlloc : Bool
  sendErr : Int
  replies : List RecvOutcome
  deriving DecidableEq

/-- `get_port_list` and `get_options`: a get request answered through the handler `cb`,
then a dispatch of `changeType` when the round trip returns 0. `NLA_PUT_U32` of the
ifindex into a fresh message does not fail, so its `nla_put_failure` exit is left out. -/
def getListRequest (cb : ValidCb) (changeType : TeamChangeTypeMask) (oom : Nat → Bool)
    (rt : RoundTrip) (th : TeamHandle) : Except Stop (Int × TeamHandle) :=
  if !rt.msgAlloc then .ok (-ENOMEM, th)
  else do
    let (err, th) ← sendAndRecv oom rt.sendErr (some cb) rt.replies th
    if err ≠ 0 then pure (err, th)
    else pure (0, checkCallChangeHandlers changeType th)

/-- `get_port_list`. -/
def getPortList (oom : Nat → Bool) (rt : RoundTrip) (th : TeamHandle) :
    Except Stop (Int × TeamHandle) :=
  getListRequest .portList TEAM_PORT_CHANGE oom rt th

/-- `get_options`. -/
def getOptions (oom : Nat → Bool) (rt : RoundTrip) (th : TeamHandle) :
    Except Stop (Int × TeamHandle) :=
  getListRequest .options TEAM_OPTION_CHANGE oom rt th

/-- What `team_init` meets: the results of `genl_connect` on the two sockets, of
`genl_ctrl_resolve`, `genl_ctrl_resolve_grp` and `nl_socket_add_membership`, and the two
round trips of the initial fetch. -/
structure InitEnv where
  connect : Int
  connectEvent : Int
  family : Int
  grpId : Int
  membership : Int
  portList : RoundTrip
  options : RoundTrip
  deriving DecidableEq

/-- `team_init`, with its return value. -/
def teamInit (oom : Nat → Bool) (env : InitEnv) (ifindex : UInt32) (th : TeamHandle) :
    Except Stop (Int × TeamHandle) :=
  if ifindex = 0 then .ok (-ENOENT, th)
  else
    let th := { th with ifindex := ifindex }
    if env.connect ≠ 0 then .ok (-nl2syserr env.connect, th)
    else if env.connectEvent ≠ 0 then .ok (-nl2syserr env.connectEvent, th)
    else
      let th := { th with eventConnected := true, family := env.family }
      if env.family < 0 then .ok (-nl2syserr env.family, th)
      else if env.grpId < 0 then .ok (-nl2syserr env.grpId, th)
      else if env.membership < 0 then .ok (-nl2syserr env.membership, th)
      else do
        let (err, th) ← getPortList oom env.portList { th with callbacksSet := true }
        if err ≠ 0 then pure (err, th)
        else getOptions oom env.options th

/-- `team_process_event`: one receive on the event socket, then a dispatch of every
category. -/
def teamProcessEvent (oom : Nat → Bool) (rcv : RecvOutcome) (th : TeamHandle) :
    Except Stop TeamHandle := do
  let th ← nlRecvmsgsDefaultEvent oom rcv th
  pure (checkCallChangeHandlers TEAM_ANY_CHANGE th)

/-- The outcome of one `select` on the event socket with a zero timeout. -/
inductive SelectOutcome where
  /-- `-1` with `errno == EINTR` -/
  | interrupted
  /-- the socket is readable; the receive that follows has outcome `rcv` -/
  | ready (rcv : RecvOutcome)
  /-- `0`: nothing to read -/
  | notReady
  /-- `-1` with another `errno` -/
  | failed
  deriving DecidableEq

/-- The `while (true)` loop of `team_check_events` on a connected event socket. -/
def teamCheckEventsLoop (oom : Nat → Bool) :
    List SelectOutcome → TeamHandle → Except Stop TeamHandle
  | [], _ => .error .unfinished
  | .interrupted :: outs, th => teamCheckEventsLoop oom outs th
  | .ready rcv :: outs, th => teamProcessEvent oom rcv th >>= teamCheckEventsLoop oom outs
  | .notReady :: _, th => .ok th
  | .failed :: _, th => .ok th

/-- `team_check_events`. `tfd` is -1 on an event socket never connected, and the first
`FD_SET(tfd, &rfds)` of the loop is then undefined. -/
def teamCheckEvents (oom : Nat → Bool) (outs : List SelectOutcome) (th : TeamHandle) :
    Except Stop TeamHandle :=
  if th.eventConnected then teamCheckEventsLoop oom outs th else .error .negativeFd

/-- `team_free`: the heap it leaves. It flushes both registries and frees the sockets, the
link cache and the handle; it does not free the change-handler items. -/
def teamFree (th : TeamHandle) : Heap := (flushOptionList (flushPortList th)).heap

/-- `team_destroy`: its return value, and the interface it asks the kernel to delete, if
any. `linkAlloc` is whether `rtnl_link_alloc` succeeds, `deleteErr` what
`rtnl_link_delete` returns. -/
def teamDestroy (linkAlloc : Bool) (deleteErr : Int) (th : TeamHandle) :
    Int × Option UInt32 :=
  if th.ifindex = 0 then (-ENODEV, none)
  else if !linkAlloc then (-ENOMEM, none)
  else (-nl2syserr deleteErr, some th.ifindex)

end Libteam
