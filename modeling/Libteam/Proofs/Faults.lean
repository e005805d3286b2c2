import Libteam.Proofs.Memory

/-!
# `Libteam.Proofs.Faults`: what failures and allocation faults do

* `abortedPortBatch_leaksNodes`: a port batch abandoned in the middle, at an item with no
  ifindex, leaves the nodes built for its first items live and reachable from no list, and
  `team_free` frees neither them nor the change-handler items.
* `teamInit_setsIfindex`: `team_init` with a nonzero ifindex leaves it in the handle
  whichever exit it takes, so `team_destroy` after a failed `team_init` deletes that link
  (`failedInit_destroyDeletesLink`).
* `sendAndRecv_retriesFailedReceive`: a failed receive leaves `nl_sock_err` at 1, so
  `send_and_recv` receives again; on a channel whose receives keep failing it never
  returns. When it does return after sending, its value is 0 or the code of an error
  reply among those it read (`sendAndRecv_returnsAckOrKernelError`); what it read is a
  prefix of the replies, on which it returns the same whatever follows (`ReadsPrefix`).
* `getOptionsHandler_allocFailure_nullDeref`: when an allocation of `create_option` fails
  for a recognised item, `get_options_handler` links NULL.
-/

set_option autoImplicit false

namespace Libteam

/-! ### Leaks -/

/-- `team_init` on device 5 where every call succeeds and the second item of the port
dump carries no `TEAM_ATTR_PORT_IFINDEX`. -/
def abortedPortBatchInit : InitEnv :=
  ⟨0, 0, 16, 3, 0,
    ⟨true, 20, [.parts [.data ⟨TEAM_CMD_PORT_LIST_GET, some 5,
      some [some ⟨some 7, none, none, true, false⟩, some ⟨none, some 1000, none, true, false⟩],
      none⟩, .ack]]⟩,
    ⟨true, 20, [.parts [.data ⟨TEAM_CMD_OPTIONS_GET, some 5, none, some []⟩, .ack]]⟩⟩

/-- After that `team_init` and the registration of one handler, the node at address 0,
built for the first port item, is live and on no list, and `team_free` leaves it and the
handler item live. -/
theorem abortedPortBatch_leaksNodes :
    ∃ th, runApi (fun _ => false) [.init abortedPortBatchInit 5, .register ⟨1, TEAM_ANY_CHANGE⟩]
        teamAlloc = .ok th ∧
      Reachable (fun _ => false) th ∧ 0 ∈ th.heap.live ∧ 0 ∉ th.reachableAddrs ∧
      (teamFree th).live = [1, 0] :=
  ⟨_, rfl, @reachable_runApi _ [.init abortedPortBatchInit 5, .register ⟨1, TEAM_ANY_CHANGE⟩] _ rfl,
    by decide, by decide, rfl⟩

/-! ### `team_init` and `ifindex` -/

/-- Whichever exit `team_init` takes with a nonzero ifindex, the handle keeps that
ifindex, and `team_destroy` asks the kernel to delete the link when `rtnl_link_alloc`
succeeds. -/
theorem teamInit_setsIfindex {oom : Nat → Bool} {env : InitEnv} {ifindex : UInt32}
    {th th' : TeamHandle} {err : Int} (hif : ifindex ≠ 0)
    (h : teamInit oom env ifindex th = .ok (err, th')) :
    th'.ifindex = ifindex ∧
      ∀ deleteErr, teamDestroy true deleteErr th' = (-nl2syserr deleteErr, some ifindex) := by
  have hkeep : th'.ifindex = ifindex := by
    rcases teamInit_steps h with ⟨h0, -⟩ | ⟨-, hs⟩
    · exact absurd h0 hif
    · exact hs.ifindex_eq
  refine ⟨hkeep, fun deleteErr => ?_⟩
  simp [teamDestroy, hkeep, hif]

/-- What `team_init` meets when `genl_connect` fails on the command socket. -/
def connectFailsInit : InitEnv :=
  ⟨-1, 0, 0, 0, 0, ⟨false, 0, []⟩, ⟨false, 0, []⟩⟩

theorem teamInit_setsIfindex_connectFails :
    (5 : UInt32) ≠ 0 ∧ ∃ err th, teamInit (fun _ => false) connectFailsInit 5 teamAlloc = .ok (err, th) ∧
      th.ifindex = 5 ∧
      ∀ deleteErr, teamDestroy true deleteErr th = (-nl2syserr deleteErr, some 5) :=
  ⟨by decide, _, _, rfl,
    @teamInit_setsIfindex (fun _ => false) connectFailsInit 5 teamAlloc _ _ (by decide) rfl⟩

/-- `team_init` on a fresh handle fails, and `team_destroy` then deletes link 5 and
returns 0 instead of `-ENODEV`. -/
theorem failedInit_destroyDeletesLink :
    ∃ err th, teamInit (fun _ => false) connectFailsInit 5 teamAlloc = .ok (err, th) ∧
      err < 0 ∧ th.ifindex = 5 ∧ teamDestroy true 0 th = (0, some 5) :=
  ⟨_, _, rfl, by decide, rfl, rfl⟩

/-! ### Receives -/

section Recv
variable {oom : Nat → Bool}

/-- A code a kernel error reply among the receives `outs` carried. -/
def ErrorReplyIn (outs : List RecvOutcome) (err : Int) : Prop :=
  ∃ ps, RecvOutcome.parts ps ∈ outs ∧ ∃ e, NlPart.error e ∈ ps ∧ err = e.val

theorem ErrorReplyIn.mono {outs outs' : List RecvOutcome} (hsub : outs ⊆ outs') {v : Int} :
    ErrorReplyIn outs v → ErrorReplyIn outs' v
  | ⟨ps, hps, e, he, hv⟩ => ⟨ps, hsub hps, e, he, hv⟩

/-- One receive leaves `nl_sock_err` as it was, or writes 0 (an ack or a done), or writes
the code of one of its error replies. -/
theorem nlRecvmsgs_sockErr {valid : Option (NlMsg → TeamHandle → Except Stop TeamHandle)}
    (hvalid : ∀ f, valid = some f → ∀ msg th th', f msg th = .ok th' →
      th'.nlSockErr = th.nlSockErr)
    {custom : Bool} {ps : List NlPart} {th th' : TeamHandle}
    (h : nlRecvmsgs valid custom ps th = .ok th') :
    th'.nlSockErr = th.nlSockErr ∨ th'.nlSockErr = 0 ∨
      ∃ e, NlPart.error e ∈ ps ∧ th'.nlSockErr = e.val := by
  induction ps generalizing th with
  | nil => cases h; exact .inl rfl
  | cons p ps ih =>
    cases p with
    | data msg =>
      cases valid with
      | none => simpa using ih h
      | some f =>
        obtain ⟨th₁, hf, h⟩ := exceptBind_eq_ok h
        rw [← hvalid f rfl msg th th₁ hf]
        simpa using ih h
    | ack =>
      simp only [nlRecvmsgs] at h
      split at h
      · cases h; exact .inr (.inl rfl)
      · simpa using ih h
    | done =>
      rcases ih h with h' | h' | ⟨e, he, h'⟩
      · split at h'
        · exact .inr (.inl h')
        · exact .inl h'
      · exact .inr (.inl h')
      · exact .inr (.inr ⟨e, List.mem_cons_of_mem _ he, h'⟩)
    | error e =>
      simp only [nlRecvmsgs] at h
      split at h
      · rcases ih h with h' | h' | ⟨e', he', h'⟩
        · exact .inr (.inr ⟨e, List.mem_cons_self _ _, h'⟩)
        · exact .inr (.inl h')
        · exact .inr (.inr ⟨e', List.mem_cons_of_mem _ he', h'⟩)
      · cases h; exact .inl rfl

/-- The receive loop returns with `nl_sock_err` at most 0, at its value on entry, at 0, or
at the code of an error reply it read. -/
theorem recvLoop_sockErr {outs rest : List RecvOutcome} {th th' : TeamHandle}
    (h : recvLoop oom outs th = .ok (th', rest)) :
    th'.nlSockErr ≤ 0 ∧
      (th'.nlSockErr = th.nlSockErr ∨ th'.nlSockErr = 0 ∨ ErrorReplyIn outs th'.nlSockErr) := by
  induction outs generalizing th with
  | nil =>
    simp only [recvLoop] at h
    split at h
    · cases h
    · cases h; exact ⟨Int.not_lt.mp ‹_›, .inl rfl⟩
  | cons o outs ih =>
    simp only [recvLoop] at h
    split at h
    · obtain ⟨th₁, hr, h⟩ := exceptBind_eq_ok h
      obtain ⟨hle, h'⟩ := ih h
      refine ⟨hle, ?_⟩
      -- what the receive `o` left, then what the rest of the loop wrote
      have hrecv : th₁.nlSockErr = th.nlSockErr ∨ th₁.nlSockErr = 0 ∨
          ErrorReplyIn [o] th₁.nlSockErr := by
        cases o with
        | fail _ => cases hr; exact .inl rfl
        | parts ps =>
          refine (nlRecvmsgs_sockErr (fun f hf msg th th' hrun => ?_) hr).imp_right
            (.imp_right fun ⟨e, he, hv⟩ => ⟨ps, List.mem_singleton_self _, e, he, hv⟩)
          obtain ⟨cb, -, rfl⟩ := Option.map_eq_some'.mp hf
          exact (ValidCb.run_transport hrun).2
      rcases h' with h' | h' | h'
      · rw [h'] at hle ⊢
        exact hrecv.imp_right (.imp_right (.mono (by simp)))
      · exact .inr (.inl h')
      · exact .inr (.inr (h'.mono fun _ => List.mem_cons_of_mem _))
    · cases h; exact ⟨Int.not_lt.mp ‹_›, .inl rfl⟩

/-- Once its request is sent, `send_and_recv` returns 0 or the code of a kernel error reply
among its replies. -/
theorem sendAndRecv_sockErr {sendErr : Int} {valid : Option ValidCb}
    {replies : List RecvOutcome} {th th' : TeamHandle} {err : Int} (hsend : 0 ≤ sendErr)
    (h : sendAndRecv oom sendErr valid replies th = .ok (err, th')) :
    err = 0 ∨ ErrorReplyIn replies err := by
  unfold sendAndRecv at h
  rw [if_neg (Int.not_lt.mpr hsend)] at h
  obtain ⟨⟨th₁, rest⟩, hr, h⟩ := exceptBind_eq_ok h
  cases h
  obtain ⟨hle, h₁ | h₁ | h₁⟩ := recvLoop_sockErr hr
  · -- the loop does not end with `nl_sock_err` still at 1
    rw [h₁] at hle
    exact absurd hle (by decide : ¬ (1 : Int) ≤ 0)
  · exact .inl h₁
  · exact .inr h₁

/-- `read` is the part of the receive outcomes a call reads: the call gives `r` whatever
follows `read`, and on no shorter prefix of it does. -/
def ReadsPrefix {α : Type} (call : List RecvOutcome → α) (read : List RecvOutcome) (r : α) :
    Prop :=
  (∀ rest, call (read ++ rest) = r) ∧
    ∀ pre, pre <+: read → (∀ rest, call (pre ++ rest) = r) → pre = read

/-- A call that does not receive reads nothing. -/
theorem readsPrefix_nil {α : Type} {call : List RecvOutcome → α} {r : α}
    (h : ∀ rs, call rs = r) : ReadsPrefix call [] r :=
  ⟨fun rest => h rest, fun _ hpre _ => List.prefix_nil.mp hpre⟩

theorem recvLoop_of_not_pos {th : TeamHandle} (h : ¬ 0 < th.nlSockErr) (outs : List RecvOutcome) :
    recvLoop oom outs th = .ok (th, outs) := by
  cases outs <;> simp [recvLoop, h]

/-- The receive loop reads a prefix of the outcomes and returns the rest unread: on any
outcomes that start with that prefix it does the same. -/
theorem recvLoop_prefix {outs rest : List RecvOutcome} {th th' : TeamHandle}
    (h : recvLoop oom outs th = .ok (th', rest)) :
    ∃ read, outs = read ++ rest ∧ ∀ rest', recvLoop oom (read ++ rest') th = .ok (th', rest') := by
  by_cases hpos : 0 < th.nlSockErr
  case neg =>
    rw [recvLoop_of_not_pos hpos] at h
    cases h
    exact ⟨[], rfl, recvLoop_of_not_pos hpos⟩
  induction outs generalizing th with
  | nil => simp [recvLoop, hpos] at h
  | cons o outs ih =>
    simp only [recvLoop, if_pos hpos] at h
    obtain ⟨th₁, hr, h⟩ := exceptBind_eq_ok h
    obtain ⟨read, rfl, hread⟩ : ∃ read, outs = read ++ rest ∧
        ∀ rest', recvLoop oom (read ++ rest') th₁ = .ok (th', rest') := by
      by_cases hpos₁ : 0 < th₁.nlSockErr
      · exact ih h hpos₁
      · rw [recvLoop_of_not_pos hpos₁] at h
        cases h
        exact ⟨[], rfl, recvLoop_of_not_pos hpos₁⟩
    refine ⟨o :: read, rfl, fun rest' => ?_⟩
    simp only [List.cons_append, recvLoop, if_pos hpos, hr]
    exact hread rest'

/-- `send_and_recv` reads a prefix of its replies: nothing when the send fails, and
otherwise what its receive loop reads. -/
theorem sendAndRecv_readsPrefix {sendErr : Int} {valid : Option ValidCb}
    {replies : List RecvOutcome} {th : TeamHandle} {r : Int × TeamHandle}
    (h : sendAndRecv oom sendErr valid replies th = .ok r) :
    ∃ read rest, replies = read ++ rest ∧
      ReadsPrefix (fun rs => sendAndRecv oom sendErr valid rs th) read (.ok r) := by
  by_cases hs : sendErr < 0
  · refine ⟨[], replies, rfl, readsPrefix_nil fun rs => ?_⟩
    simpa only [sendAndRecv, if_pos hs] using h
  let th₀ : TeamHandle := { th with nlSockErr := 1, validCb := valid <|> th.validCb }
  have hcall : ∀ rs, sendAndRecv oom sendErr valid rs th =
      recvLoop oom rs th₀ >>= fun x => pure (x.1.nlSockErr, x.1) := fun rs => by
    simp only [sendAndRecv, if_neg hs]
  rw [hcall] at h
  obtain ⟨⟨th₁, rest⟩, hr, h⟩ := exceptBind_eq_ok h
  cases h
  obtain ⟨read, rfl, hread⟩ := recvLoop_prefix hr
  refine ⟨read, rest, rfl, fun rest' => by beta_reduce; rw [hcall, hread]; rfl,
    fun pre hpre hpre' => ?_⟩
  -- a prefix on which the call returns holds the whole part the loop reads
  obtain ⟨s, rfl⟩ := hpre
  have hp := hpre' []
  simp only [List.append_nil, hcall] at hp
  obtain ⟨⟨th₂, rest₂⟩, hr₂, hp⟩ := exceptBind_eq_ok hp
  obtain ⟨c, rfl, hc⟩ := recvLoop_prefix hr₂
  have := hc (rest₂ ++ s ++ rest)
  simp only [List.append_assoc] at this hr
  rw [hr] at this
  have hlen := congrArg List.length (Prod.ext_iff.mp (Except.ok.inj this)).2
  simp only [List.length_append] at hlen
  have hs : s = [] := List.length_eq_zero.mp (by omega)
  simp [hs]

/-- Once its request is sent, `send_and_recv` returns 0 or the code of a kernel error reply
among the replies it read, never a positive value: `read` is the prefix of the replies the
call reads, and the call returns the same whatever follows it. -/
theorem sendAndRecv_returnsAckOrKernelError {sendErr : Int} {valid : Option ValidCb}
    {replies : List RecvOutcome} {th th' : TeamHandle} {err : Int} (hsend : 0 ≤ sendErr)
    (h : sendAndRecv oom sendErr valid replies th = .ok (err, th')) :
    ∃ read rest, replies = read ++ rest ∧
      ReadsPrefix (fun rs => sendAndRecv oom sendErr valid rs th) read (.ok (err, th')) ∧
      (err = 0 ∨ ErrorReplyIn read err) := by
  obtain ⟨read, rest, hsplit, hread⟩ := sendAndRecv_readsPrefix h
  have hcall := hread.1 []
  rw [List.append_nil] at hcall
  exact ⟨read, rest, hsplit, hread, sendAndRecv_sockErr hsend hcall⟩

/-- An error reply, and an ack after it that the call never reads. -/
theorem sendAndRecv_returnsAckOrKernelError_errorReply :
    let th : TeamHandle := { teamAlloc with callbacksSet := true }
    let replies := [RecvOutcome.parts [.error ⟨-2, by decide⟩], .parts [.ack]]
    (0 : Int) ≤ 20 ∧
    sendAndRecv (fun _ => false) 20 (some .portList) replies th =
      .ok (-2, { th with nlSockErr := -2, validCb := some .portList }) ∧
    ∃ read rest, replies = read ++ rest ∧
      ReadsPrefix (fun rs => sendAndRecv (fun _ => false) 20 (some .portList) rs th) read
        (.ok (-2, { th with nlSockErr := -2, validCb := some .portList })) ∧
      ((-2 : Int) = 0 ∨ ErrorReplyIn read (-2)) := by
  intro th replies
  have h : sendAndRecv (fun _ => false) 20 (some .portList) replies th =
      .ok (-2, { th with nlSockErr := -2, validCb := some .portList }) := rfl
  exact ⟨by decide, h, sendAndRecv_returnsAckOrKernelError (by decide) h⟩

/-- A failed receive runs no callback, so the loop goes on while `nl_sock_err` is set. -/
theorem recvLoop_fail {e : Int} {outs : List RecvOutcome} {th : TeamHandle}
    (h : 0 < th.nlSockErr) : recvLoop oom (.fail e :: outs) th = recvLoop oom outs th := by
  simp only [recvLoop, h, if_true, nlRecvmsgsDefault]
  rfl

theorem recvLoop_replicate_fail (e : Int) (n : Nat) {th : TeamHandle} (h : 0 < th.nlSockErr) :
    recvLoop oom (List.replicate n (.fail e)) th = .error .unfinished := by
  induction n with
  | zero => simp [recvLoop, h]
  | succ n ih => rw [List.replicate_succ, recvLoop_fail h, ih]

/-- Once the request is sent, a failed receive is as if it had not happened: the loop
receives again. With only failed receives to come, no number of them ends the loop. -/
theorem sendAndRecv_retriesFailedReceive {sendErr : Int} (hsend : 0 ≤ sendErr)
    (valid : Option ValidCb) (e : Int) (outs : List RecvOutcome) (th : TeamHandle) :
    sendAndRecv oom sendErr valid (.fail e :: outs) th = sendAndRecv oom sendErr valid outs th ∧
    ∀ n, sendAndRecv oom sendErr valid (List.replicate n (.fail e)) th = .error .unfinished := by
  have hnot : ¬ sendErr < 0 := by omega
  have hset : (0 : Int) < ({ th with nlSockErr := 1, validCb := valid <|> th.validCb }).nlSockErr :=
    Int.zero_lt_one
  refine ⟨?_, fun n => ?_⟩
  · simp only [sendAndRecv, hnot, if_false, recvLoop_fail hset]
  · simp only [sendAndRecv, hnot, if_false, recvLoop_replicate_fail e n hset]
    rfl

theorem sendAndRecv_retriesFailedReceive_portList :
    (0 : Int) ≤ 20 ∧
    sendAndRecv (fun _ => false) 20 (some .portList) [.fail (-1)] teamAlloc =
      sendAndRecv (fun _ => false) 20 (some .portList) [] teamAlloc ∧
    ∀ n, sendAndRecv (fun _ => false) 20 (some .portList) (List.replicate n (.fail (-1)))
      teamAlloc = .error .unfinished :=
  ⟨by decide, sendAndRecv_retriesFailedReceive (by decide) (some .portList) (-1) [] teamAlloc⟩

end Recv

/-! ### Allocation failure in `create_option` -/

/-- `create_option` returns NULL when any of its three allocations fails. -/
theorem createOption_eq_none {oom : Nat → Bool} {name data : List UInt8}
    {optType : TeamOptionType} {changed : Bool} {heap : Heap}
    (hoom : oom heap.next = true ∨ oom (heap.next + 1) = true ∨ oom (heap.next + 2) = true) :
    (createOption oom name optType data changed heap).1 = none := by
  unfold createOption
  rcases hoom with h₀ | h₁ | h₂
  · simp [Heap.malloc, h₀]
  · cases h₀ : oom heap.next <;> simp [Heap.malloc, h₀, h₁]
  · have h₂ : oom (heap.next + 1 + 1) = true := h₂
    cases h₀ : oom heap.next <;> cases h₁ : oom (heap.next + 1) <;> simp [Heap.malloc, h₀, h₁, h₂]

/-- For a message `get_options_handler` accepts, whose first item is complete and of
recognised type, a failed allocation in its `create_option` is a NULL dereference. -/
theorem getOptionsHandler_allocFailure_nullDeref {oom : Nat → Bool} {msg : NlMsg}
    {th : TeamHandle} {it : OptionItem} {items : List OptionItem} {o : TeamOption}
    (hif : msg.teamIfindex.getD 0 = th.ifindex) (hitems : msg.listOption = some (it :: items))
    (hopt : optionOfItem it = some o)
    (hoom : oom th.heap.next = true ∨ oom (th.heap.next + 1) = true ∨
      oom (th.heap.next + 2) = true) :
    getOptionsHandler oom msg th = .error .nullDeref := by
  obtain ⟨namePayload, nlaType, payload, rfl, hname, hdata⟩ := optionOfItem_eq_some.mp hopt
  have hfail := @createOption_eq_none oom o.name o.data o.type o.changed th.heap hoom
  simp only [getOptionsHandler, hif, ne_eq, not_true_eq_false, if_false, hitems, optionItemsLoop,
    optionItemStep, hname, findOption, List.find?_nil, Option.isSome_none, Bool.false_eq_true,
    hdata]
  revert hfail
  cases createOption oom o.name o.type o.data o.changed th.heap with
  | mk r heap => cases r <;> simp

/-- An options message for a fresh handle whose one item binds `mode` to a string. -/
def modeOptionsMsg : NlMsg :=
  ⟨TEAM_CMD_OPTIONS_GET, none, none,
    some [some ⟨some (cstr "mode" ++ [0]), some NLA_STRING, some (cstr "ab" ++ [0]), false⟩]⟩

theorem getOptionsHandler_allocFailure_nullDeref_firstMalloc :
    modeOptionsMsg.teamIfindex.getD 0 = teamAlloc.ifindex ∧
    modeOptionsMsg.listOption =
      some [some ⟨some (cstr "mode" ++ [0]), some NLA_STRING, some (cstr "ab" ++ [0]), false⟩] ∧
    (optionOfItem (some ⟨some (cstr "mode" ++ [0]), some NLA_STRING, some (cstr "ab" ++ [0]),
      false⟩)).isSome ∧
    getOptionsHandler (fun n => n == 0) modeOptionsMsg teamAlloc = .error .nullDeref :=
  ⟨rfl, rfl, by decide,
    getOptionsHandler_allocFailure_nullDeref rfl rfl (Option.get_mem (by decide)) (.inl rfl)⟩

end Libteam
