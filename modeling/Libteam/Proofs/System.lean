import Libteam.Proofs.Handlers
import Mathlib.Logic.Relation

/-!
# `Libteam.Proofs.System`: the handle as a state machine

A handle moves by five kinds of primitive step (`Step`): a message decoded by
`get_port_list_handler` or `get_options_handler`, a dispatch
`check_call_change_handlers(th, mask)` with any mask, a register or an unregister call,
and a change of the transport fields alone (the socket error, the family, the ifindex,
the installed callbacks and whether the event socket is connected). `Reachable` is the closure of these steps from the handle of
`team_alloc`, for one allocation oracle.

Every library call is a sequence of steps (`steps_teamInit`, `steps_apiCall`,
`reachable_runApi`), so every state a run of the library passes through, inside a call
or between calls, is reachable. Receives, events and dispatches move by steps that keep
`ifindex` (`StepsKeepingIfindex`); only `team_init` writes it, before its first exit
(`teamInit_steps`).

`Inv` holds in every reachable state (`inv_of_reachable`):

* the pending mask summarises the trace (`PendingInv`);
* handler pointers are distinct;
* the port list is the ports of the latest port batch the trace installed, one per item;
* the option list is `optionsOf` the latest option batch the trace installed.
-/

set_option autoImplicit false

namespace Libteam

/-- `th'` is `th` with at most its transport fields changed. -/
def TransportOnly (th th' : TeamHandle) : Prop :=
  th' = { th with nlSockErr := th'.nlSockErr, family := th'.family, ifindex := th'.ifindex,
                  validCb := th'.validCb, callbacksSet := th'.callbacksSet,
                  eventConnected := th'.eventConnected }

/-- The primitive steps of a handle. -/
inductive Step (oom : Nat → Bool) : TeamHandle → TeamHandle → Prop
  | decode {th th' : TeamHandle} (cb : ValidCb) (msg : NlMsg) (h : cb.run oom msg th = .ok th') :
      Step oom th th'
  | dispatch (th : TeamHandle) (callTypeMask : TeamChangeTypeMask) :
      Step oom th (checkCallChangeHandlers callTypeMask th)
  | register (th : TeamHandle) (handler : TeamChangeHandler) :
      Step oom th (teamChangeHandlerRegister oom handler th).2
  | unregister (th : TeamHandle) (handler : TeamChangeHandler) :
      Step oom th (teamChangeHandlerUnregister handler th)
  | transport {th th' : TeamHandle} (h : TransportOnly th th') : Step oom th th'

/-- Reached from `th` by primitive steps. -/
abbrev Steps (oom : Nat → Bool) : TeamHandle → TeamHandle → Prop :=
  Relation.ReflTransGen (Step oom)

/-- Reached by primitive steps from the handle `team_alloc` returns. -/
def Reachable (oom : Nat → Bool) (th : TeamHandle) : Prop := Steps oom teamAlloc th

/-- The items of the latest port batch the trace installed (none yet: no items). -/
def latestPortItems (trace : List ChangeEvent) : List PortItem :=
  trace.foldl (fun acc e => match e with | .installPorts items => items | _ => acc) []

/-- The items of the latest option batch the trace installed (none yet: no items). -/
def latestOptionItems (trace : List ChangeEvent) : List OptionItem :=
  trace.foldl (fun acc e => match e with | .installOptions items => items | _ => acc) []

@[simp] theorem latestPortItems_append_installPorts (trace : List ChangeEvent)
    (items : List PortItem) : latestPortItems (trace ++ [.installPorts items]) = items := by
  simp [latestPortItems]

@[simp] theorem latestPortItems_append_installOptions (trace : List ChangeEvent)
    (items : List OptionItem) :
    latestPortItems (trace ++ [.installOptions items]) = latestPortItems trace := by
  simp [latestPortItems]

@[simp] theorem latestPortItems_append_check (trace : List ChangeEvent)
    (c : TeamChangeTypeMask) (calls : List (TeamChangeHandler × TeamChangeTypeMask)) :
    latestPortItems (trace ++ [.check c calls]) = latestPortItems trace := by
  simp [latestPortItems]

@[simp] theorem latestOptionItems_append_installOptions (trace : List ChangeEvent)
    (items : List OptionItem) : latestOptionItems (trace ++ [.installOptions items]) = items := by
  simp [latestOptionItems]

@[simp] theorem latestOptionItems_append_installPorts (trace : List ChangeEvent)
    (items : List PortItem) :
    latestOptionItems (trace ++ [.installPorts items]) = latestOptionItems trace := by
  simp [latestOptionItems]

@[simp] theorem latestOptionItems_append_check (trace : List ChangeEvent)
    (c : TeamChangeTypeMask) (calls : List (TeamChangeHandler × TeamChangeTypeMask)) :
    latestOptionItems (trace ++ [.check c calls]) = latestOptionItems trace := by
  simp [latestOptionItems]

/-! ### The invariant -/

/-- What holds in every reachable state. -/
structure Inv (th : TeamHandle) : Prop where
  pending : PendingInv th
  handlers : HandlersNodup th
  ports : (latestPortItems th.trace).Forall₂ (fun it p => portOfItem it = some p)
    (th.portList.map (·.val))
  options : th.optionList.map (·.val) = optionsOf (latestOptionItems th.trace)

/-- `Inv` reads five fields only. -/
theorem Inv.of_handlers {th th' : TeamHandle} (hi : Inv th) (htrace : th'.trace = th.trace)
    (hpending : th'.pendingTypeMask = th.pendingTypeMask)
    (hports : th'.portList = th.portList) (hoptions : th'.optionList = th.optionList)
    (hnd : HandlersNodup th') : Inv th' where
  pending b := by rw [htrace, hpending]; exact hi.pending b
  handlers := hnd
  ports := by rw [htrace, hports]; exact hi.ports
  options := by rw [htrace, hoptions]; exact hi.options

theorem Inv.congr {th th' : TeamHandle} (hi : Inv th) (htrace : th'.trace = th.trace)
    (hpending : th'.pendingTypeMask = th.pendingTypeMask)
    (hhandlers : th'.changeHandlerList = th.changeHandlerList)
    (hports : th'.portList = th.portList) (hoptions : th'.optionList = th.optionList) :
    Inv th' :=
  hi.of_handlers htrace hpending hports hoptions (by rw [HandlersNodup, hhandlers]; exact hi.handlers)

theorem inv_teamAlloc : Inv teamAlloc where
  pending := pendingInv_teamAlloc
  handlers := List.nodup_nil
  ports := .nil
  options := rfl

theorem inv_getPortListHandler {oom : Nat → Bool} {msg : NlMsg} {th : TeamHandle}
    (hi : Inv th) : Inv (getPortListHandler oom msg th) := by
  rcases getPortListHandler_cases oom msg th with h | ⟨_, _, -, -, h⟩ |
      ⟨items, tmp, heap, -, -, hloop, h⟩
  · rw [h]; exact hi
  · rw [h]; exact hi.congr rfl rfl rfl rfl rfl
  · obtain ⟨ports, hports, htmp⟩ := portItemsLoop_some hloop
    rw [h]
    exact ⟨pendingInv_install (.installPorts items) hi.pending rfl rfl fun _ h => h,
      hi.handlers, by simpa [htmp] using hports, by simpa using hi.options⟩

theorem inv_getOptionsHandler {oom : Nat → Bool} {msg : NlMsg} {th th' : TeamHandle}
    (hi : Inv th) (hok : getOptionsHandler oom msg th = .ok th') : Inv th' := by
  rcases getOptionsHandler_cases hok with h | ⟨_, _, -, -, h⟩ | ⟨items, tmp, heap, -, -, hloop, h⟩
  · rw [h]; exact hi
  · rw [h]; exact hi.congr rfl rfl rfl rfl rfl
  · rw [h]
    exact ⟨pendingInv_install (.installOptions items) hi.pending rfl rfl fun _ h => h,
      hi.handlers, by simpa using hi.ports, by simpa using (optionItemsLoop_ok_some hloop).2⟩

/-- Every primitive step keeps `Inv`. -/
theorem inv_step {oom : Nat → Bool} {th th' : TeamHandle} (h : Step oom th th') (hi : Inv th) :
    Inv th' := by
  cases h with
  | decode cb msg h =>
    cases cb with
    | portList => cases h; exact inv_getPortListHandler hi
    | options => exact inv_getOptionsHandler hi h
  | dispatch c =>
    obtain ⟨-, -, -, hpending⟩ := checkCallChangeHandlers_settleLaw c th hi.pending hi.handlers
    exact ⟨hpending, hi.handlers, by simpa [checkCallChangeHandlers] using hi.ports,
      by simpa [checkCallChangeHandlers] using hi.options⟩
  | register handler =>
    refine hi.of_handlers ?_ ?_ ?_ ?_ (handlersNodup_register handler th hi.handlers) <;>
      unfold teamChangeHandlerRegister <;> split <;> (try split) <;> rfl
  | unregister handler =>
    refine hi.of_handlers ?_ ?_ ?_ ?_ (teamChangeHandlerUnregister_refines handler th hi.handlers).2 <;>
      unfold teamChangeHandlerUnregister <;> split <;> rfl
  | transport h => rw [h]; exact hi.congr rfl rfl rfl rfl rfl

theorem inv_of_steps {oom : Nat → Bool} {th th' : TeamHandle} (h : Steps oom th th')
    (hi : Inv th) : Inv th' := by
  induction h with
  | refl => exact hi
  | tail _ hstep ih => exact inv_step hstep ih

theorem inv_of_reachable {oom : Nat → Bool} {th : TeamHandle} (h : Reachable oom th) : Inv th :=
  inv_of_steps h inv_teamAlloc

/-! ### Every library call is a sequence of steps -/

theorem exceptBind_eq_ok {ε α β : Type} {x : Except ε α} {f : α → Except ε β} {b : β}
    (h : (x >>= f) = .ok b) : ∃ a, x = .ok a ∧ f a = .ok b := by
  cases x with
  | error e => cases h
  | ok a => exact ⟨a, rfl, h⟩

/-- A step that leaves `ifindex` as it was. Every step of a receive or of an event is one:
only `team_init` writes `ifindex`. -/
def StepKeepingIfindex (oom : Nat → Bool) (th th' : TeamHandle) : Prop :=
  Step oom th th' ∧ th'.ifindex = th.ifindex

/-- Reached from `th` by steps that keep `ifindex`. -/
abbrev StepsKeepingIfindex (oom : Nat → Bool) : TeamHandle → TeamHandle → Prop :=
  Relation.ReflTransGen (StepKeepingIfindex oom)

section Api
variable {oom : Nat → Bool}

theorem StepsKeepingIfindex.steps {th th' : TeamHandle} (h : StepsKeepingIfindex oom th th') :
    Steps oom th th' :=
  Relation.ReflTransGen.mono (fun _ _ h => h.1) h

theorem StepsKeepingIfindex.ifindex_eq {th th' : TeamHandle}
    (h : StepsKeepingIfindex oom th th') : th'.ifindex = th.ifindex := by
  induction h with
  | refl => rfl
  | tail _ hstep ih => exact hstep.2.trans ih

/-- The decoding callbacks write neither `ifindex` nor `nl_sock_err`. -/
theorem ValidCb.run_transport {cb : ValidCb} {msg : NlMsg} {th th' : TeamHandle}
    (h : cb.run oom msg th = .ok th') : th'.ifindex = th.ifindex ∧ th'.nlSockErr = th.nlSockErr := by
  cases cb with
  | portList =>
    cases h
    rcases getPortListHandler_cases oom msg th with h | ⟨_, _, -, -, h⟩ | ⟨_, _, _, -, -, -, h⟩ <;>
      rw [h] <;> exact ⟨rfl, rfl⟩
  | options =>
    rcases getOptionsHandler_cases h with h | ⟨_, _, -, -, h⟩ | ⟨_, _, _, -, -, -, h⟩ <;>
      rw [h] <;> exact ⟨rfl, rfl⟩

theorem keepingIfindex_decode (cb : ValidCb) (msg : NlMsg) {th th' : TeamHandle}
    (h : cb.run oom msg th = .ok th') : StepsKeepingIfindex oom th th' :=
  .single ⟨.decode cb msg h, (ValidCb.run_transport h).1⟩

theorem keepingIfindex_dispatch (callTypeMask : TeamChangeTypeMask) (th : TeamHandle) :
    StepsKeepingIfindex oom th (checkCallChangeHandlers callTypeMask th) :=
  .single ⟨.dispatch _ _, rfl⟩

theorem keepingIfindex_transport {th th' : TeamHandle} (h : TransportOnly th th')
    (hif : th'.ifindex = th.ifindex) : StepsKeepingIfindex oom th th' :=
  .single ⟨.transport h, hif⟩

/-- A receive moves by steps that keep `ifindex` when its valid callback does. -/
theorem keepingIfindex_nlRecvmsgs {valid : Option (NlMsg → TeamHandle → Except Stop TeamHandle)}
    (hvalid : ∀ f, valid = some f → ∀ msg th th', f msg th = .ok th' →
      StepsKeepingIfindex oom th th')
    (custom : Bool) (ps : List NlPart) {th th' : TeamHandle}
    (h : nlRecvmsgs valid custom ps th = .ok th') : StepsKeepingIfindex oom th th' := by
  induction ps generalizing th with
  | nil => cases h; rfl
  | cons p ps ih =>
    cases p with
    | data msg =>
      cases valid with
      | none => exact ih h
      | some f =>
        obtain ⟨th₁, hf, h⟩ := exceptBind_eq_ok h
        exact (hvalid f rfl msg th th₁ hf).trans (ih h)
    | ack =>
      simp only [nlRecvmsgs] at h
      split at h
      · cases h; exact keepingIfindex_transport rfl rfl
      · exact ih h
    | done =>
      refine .trans ?_ (ih h)
      split
      · exact keepingIfindex_transport rfl rfl
      · rfl
    | error e =>
      simp only [nlRecvmsgs] at h
      split at h
      · exact .trans (keepingIfindex_transport
          (show TransportOnly th { th with nlSockErr := e.val } from rfl) rfl) (ih h)
      · cases h; rfl

theorem keepingIfindex_eventHandler {msg : NlMsg} {th th' : TeamHandle}
    (h : eventHandler oom msg th = .ok th') : StepsKeepingIfindex oom th th' := by
  unfold eventHandler at h
  split at h
  · exact keepingIfindex_decode .portList msg h
  · split at h
    · exact keepingIfindex_decode .options msg h
    · cases h; rfl

theorem keepingIfindex_nlRecvmsgsDefault {o : RecvOutcome} {th th' : TeamHandle}
    (h : nlRecvmsgsDefault oom o th = .ok th') : StepsKeepingIfindex oom th th' := by
  cases o with
  | fail _ => cases h; rfl
  | parts ps =>
    refine keepingIfindex_nlRecvmsgs (fun f hf msg th th' hrun => ?_) _ ps h
    obtain ⟨cb, -, rfl⟩ := Option.map_eq_some'.mp hf
    exact keepingIfindex_decode cb msg hrun

theorem keepingIfindex_nlRecvmsgsDefaultEvent {o : RecvOutcome} {th th' : TeamHandle}
    (h : nlRecvmsgsDefaultEvent oom o th = .ok th') : StepsKeepingIfindex oom th th' := by
  rcases ite_eq_iff.mp h with ⟨-, h⟩ | ⟨-, h⟩
  · cases h; rfl
  cases o with
  | fail _ => cases h; rfl
  | parts ps =>
    refine keepingIfindex_nlRecvmsgs (fun f hf msg th th' hrun => ?_) _ ps h
    split at hf
    · cases hf; exact keepingIfindex_eventHandler hrun
    · cases hf

theorem keepingIfindex_recvLoop {outs rest : List RecvOutcome} {th th' : TeamHandle}
    (h : recvLoop oom outs th = .ok (th', rest)) : StepsKeepingIfindex oom th th' := by
  induction outs generalizing th with
  | nil =>
    simp only [recvLoop] at h
    split at h
    · cases h
    · cases h; rfl
  | cons o outs ih =>
    simp only [recvLoop] at h
    split at h
    · obtain ⟨th₁, hr, h⟩ := exceptBind_eq_ok h
      exact (keepingIfindex_nlRecvmsgsDefault hr).trans (ih h)
    · cases h; rfl

theorem keepingIfindex_sendAndRecv {sendErr : Int} {valid : Option ValidCb}
    {replies : List RecvOutcome} {th th' : TeamHandle} {err : Int}
    (h : sendAndRecv oom sendErr valid replies th = .ok (err, th')) :
    StepsKeepingIfindex oom th th' := by
  unfold sendAndRecv at h
  split at h
  · cases h; rfl
  · obtain ⟨⟨th₁, rest⟩, hr, h⟩ := exceptBind_eq_ok h
    cases h
    exact .trans (keepingIfindex_transport (show TransportOnly th
      { th with nlSockErr := 1, validCb := valid <|> th.validCb } from rfl) rfl)
      (keepingIfindex_recvLoop hr)

theorem keepingIfindex_getListRequest {cb : ValidCb} {changeType : TeamChangeTypeMask}
    {rt : RoundTrip} {th th' : TeamHandle} {err : Int}
    (h : getListRequest cb changeType oom rt th = .ok (err, th')) :
    StepsKeepingIfindex oom th th' := by
  unfold getListRequest at h
  split at h
  · cases h; rfl
  · obtain ⟨⟨err₁, th₁⟩, hr, h⟩ := exceptBind_eq_ok h
    have hs := keepingIfindex_sendAndRecv hr
    simp only at h
    split at h
    · cases h; exact hs
    · cases h; exact hs.trans (keepingIfindex_dispatch _ _)

/-- `team_init` returns at once for ifindex 0; otherwise it writes `ifindex` and from there
moves by steps that keep it, whichever exit it takes. -/
theorem teamInit_steps {env : InitEnv} {ifindex : UInt32} {th th' : TeamHandle} {err : Int}
    (h : teamInit oom env ifindex th = .ok (err, th')) :
    (ifindex = 0 ∧ th' = th) ∨
      (ifindex ≠ 0 ∧ StepsKeepingIfindex oom { th with ifindex := ifindex } th') := by
  rcases ite_eq_iff.mp h with ⟨h0, h⟩ | ⟨h0, h⟩
  · cases h; exact .inl ⟨h0, rfl⟩
  refine .inr ⟨h0, ?_⟩
  -- `genl_connect` on either socket
  rcases ite_eq_iff.mp h with ⟨-, h⟩ | ⟨-, h⟩
  · cases h; rfl
  rcases ite_eq_iff.mp h with ⟨-, h⟩ | ⟨-, h⟩
  · cases h; rfl
  refine .trans (keepingIfindex_transport (show TransportOnly _
    { th with ifindex := ifindex, eventConnected := true, family := env.family } from rfl) rfl) ?_
  -- the family, the group and the membership
  rcases ite_eq_iff.mp h with ⟨-, h⟩ | ⟨-, h⟩
  · cases h; rfl
  rcases ite_eq_iff.mp h with ⟨-, h⟩ | ⟨-, h⟩
  · cases h; rfl
  rcases ite_eq_iff.mp h with ⟨-, h⟩ | ⟨-, h⟩
  · cases h; rfl
  -- the two round trips
  obtain ⟨⟨err₁, th₁⟩, hp, h⟩ := exceptBind_eq_ok h
  refine .trans (keepingIfindex_transport (show TransportOnly _
    { th with ifindex := ifindex, eventConnected := true, family := env.family,
              callbacksSet := true } from rfl) rfl) ?_
  have hs := keepingIfindex_getListRequest hp
  rcases ite_eq_iff.mp h with ⟨-, h⟩ | ⟨-, h⟩
  · cases h; exact hs
  · exact hs.trans (keepingIfindex_getListRequest h)

theorem steps_teamInit {env : InitEnv} {ifindex : UInt32} {th th' : TeamHandle} {err : Int}
    (h : teamInit oom env ifindex th = .ok (err, th')) : Steps oom th th' := by
  rcases teamInit_steps h with ⟨-, rfl⟩ | ⟨-, hs⟩
  · rfl
  · exact .head (.transport (show TransportOnly th { th with ifindex := ifindex } from rfl)) hs.steps

theorem keepingIfindex_teamProcessEvent {rcv : RecvOutcome} {th th' : TeamHandle}
    (h : teamProcessEvent oom rcv th = .ok th') : StepsKeepingIfindex oom th th' := by
  obtain ⟨th₁, hr, h⟩ := exceptBind_eq_ok h
  cases h
  exact (keepingIfindex_nlRecvmsgsDefaultEvent hr).trans (keepingIfindex_dispatch _ _)

theorem keepingIfindex_teamCheckEventsLoop {outs : List SelectOutcome} {th th' : TeamHandle}
    (h : teamCheckEventsLoop oom outs th = .ok th') : StepsKeepingIfindex oom th th' := by
  induction outs generalizing th with
  | nil => cases h
  | cons o outs ih =>
    cases o with
    | interrupted => exact ih h
    | ready rcv =>
      obtain ⟨th₁, hr, h⟩ := exceptBind_eq_ok h
      exact (keepingIfindex_teamProcessEvent hr).trans (ih h)
    | notReady => cases h; rfl
    | failed => cases h; rfl

theorem keepingIfindex_teamCheckEvents {outs : List SelectOutcome} {th th' : TeamHandle}
    (h : teamCheckEvents oom outs th = .ok th') : StepsKeepingIfindex oom th th' := by
  rcases ite_eq_iff.mp h with ⟨-, h⟩ | ⟨-, h⟩
  · exact keepingIfindex_teamCheckEventsLoop h
  · cases h

end Api

/-! ### Runs of the library -/

/-- A call of the library that changes the handle. -/
inductive ApiCall where
  | init (env : InitEnv) (ifindex : UInt32)
  | processEvent (rcv : RecvOutcome)
  | checkEvents (outs : List SelectOutcome)
  | register (handler : TeamChangeHandler)
  | unregister (handler : TeamChangeHandler)

/-- The handle after one call, or where the call stopped. -/
def ApiCall.run (oom : Nat → Bool) : ApiCall → TeamHandle → Except Stop TeamHandle
  | .init env ifindex, th => (teamInit oom env ifindex th).map (·.2)
  | .processEvent rcv, th => teamProcessEvent oom rcv th
  | .checkEvents outs, th => teamCheckEvents oom outs th
  | .register handler, th => .ok (teamChangeHandlerRegister oom handler th).2
  | .unregister handler, th => .ok (teamChangeHandlerUnregister handler th)

/-- The handle after a sequence of calls. -/
def runApi (oom : Nat → Bool) : List ApiCall → TeamHandle → Except Stop TeamHandle
  | [], th => .ok th
  | c :: cs, th => c.run oom th >>= runApi oom cs

theorem steps_apiCall {oom : Nat → Bool} {c : ApiCall} {th th' : TeamHandle}
    (h : c.run oom th = .ok th') : Steps oom th th' := by
  cases c with
  | init env ifindex =>
    cases hi : teamInit oom env ifindex th with
    | error e => simp only [ApiCall.run, hi, Except.map] at h; cases h
    | ok r =>
      simp only [ApiCall.run, hi, Except.map] at h
      cases h
      exact steps_teamInit hi
  | processEvent rcv => exact (keepingIfindex_teamProcessEvent h).steps
  | checkEvents outs => exact (keepingIfindex_teamCheckEvents h).steps
  | register handler => cases h; exact .single (.register _ _)
  | unregister handler => cases h; exact .single (.unregister _ _)

theorem steps_runApi {oom : Nat → Bool} {cs : List ApiCall} {th th' : TeamHandle}
    (h : runApi oom cs th = .ok th') : Steps oom th th' := by
  induction cs generalizing th with
  | nil => cases h; rfl
  | cons c cs ih =>
    obtain ⟨th₁, hc, h⟩ := exceptBind_eq_ok h
    exact (steps_apiCall hc).trans (ih h)

/-- Every handle a run of the library returns is reachable. -/
theorem reachable_runApi {oom : Nat → Bool} {cs : List ApiCall} {th : TeamHandle}
    (h : runApi oom cs teamAlloc = .ok th) : Reachable oom th :=
  steps_runApi h

/-- `team_init` on device 5 where every call succeeds until the options dump. The port
dump lists two ports and is acked. The options dump lists `mode` as a string, `mode` again
as a `__u32`, an option `x` of unknown type and `enabled`, and is followed by an error
reply, so `get_options` fails after the handler installed the options. -/
def busyInit : InitEnv :=
  ⟨0, 0, 16, 3, 0,
    ⟨true, 20, [.parts [.data ⟨TEAM_CMD_PORT_LIST_GET, some 5,
      some [some ⟨some 2, some 1000, some 1, true, false⟩, some ⟨some 3, none, none, false, true⟩],
      none⟩, .ack]]⟩,
    ⟨true, 20, [.parts [.data ⟨TEAM_CMD_OPTIONS_GET, some 5, none,
      some [some ⟨some (cstr "mode" ++ [0]), some NLA_STRING, some (cstr "ab" ++ [0]), false⟩,
        some ⟨some (cstr "mode" ++ [0]), some NLA_U32, some [1, 0, 0, 0], false⟩,
        some ⟨some (cstr "x" ++ [0]), some 99, some [], false⟩,
        some ⟨some (cstr "enabled" ++ [0]), some NLA_U32, some [1, 0, 0, 0], true⟩]⟩,
      .error ⟨-22, by decide⟩]]⟩⟩

/-- Two handlers, the first for PORT and the second for both categories, then `busyInit`:
the run ends with both registries filled, both handlers registered and OPTION pending. -/
def busyInitCalls : List ApiCall :=
  [.register ⟨1, TEAM_PORT_CHANGE⟩, .register ⟨2, TEAM_ANY_CHANGE⟩, .init busyInit 5]

end Libteam
