import Libteam.Proofs.System

/-!
# `Libteam.Proofs.Registries`: dispatches and the option registry in every reachable state

From `inv_of_reachable`:

* `registries_followHistory`: the port list, the option list and the pending mask are
  functions of the history of installs and dispatches.
* `reachable_dispatch_settleLaw`: in every reachable state, a dispatch with any mask obeys
  `SettleLaw`, where the pending categories are those installed since they were last
  settled.
* `optionRegistry_firstOfLatestBatch`: option names are distinct, and the option
  `team_get_option_by_name` finds for a name, and what both by-name getters read, is that
  of the first item of recognised type carrying the name in the latest installed batch
  (`latestOption`).
* `byNameGetters_ignoreOptionType`: the by-name getters return 0 for an option of either
  type. A `__u32` option's buffer is its four bytes and a string option's buffer is the
  string and its NUL (`OptionDataWF`), so the `__u32` getter on a short string reads past
  the buffer, as `activePort_readsStringOption` shows on a run of `team_init`.
-/

set_option autoImplicit false

namespace Libteam

/-- The option the latest installed batch gives `name`: its first item of recognised type
that carries the name. -/
def latestOption (trace : List ChangeEvent) (name : List UInt8) : Option TeamOption :=
  ((latestOptionItems trace).filterMap optionOfItem).find? (·.name == name)

/-- What a data buffer holds for the option's type: the four bytes of a `__u32`, or a
NUL-free string and its NUL. -/
def OptionDataWF (o : TeamOption) : Prop :=
  match o.type with
  | .u32 => ∃ v, o.data = u32Bytes v
  | .string => ∃ s, 0 ∉ s ∧ o.data = s ++ [0]

theorem findOption_map_val (l : List OptionNode) (name : List UInt8) :
    (findOption l name).map (·.val) = (l.map (·.val)).find? (·.name == name) := by
  simp [findOption, List.find?_map, Function.comp_def]

/-- In a state where `Inv` holds, looking a name up finds `latestOption`. -/
theorem teamGetOptionByName_of_inv {th : TeamHandle} (hi : Inv th) (name : List UInt8) :
    (teamGetOptionByName th name).map (·.val) = latestOption th.trace name := by
  rw [teamGetOptionByName, findOption_map_val, hi.options, optionsOf,
    find?_foldl_insertOption, List.nil_append, latestOption]

theorem nodup_names_of_inv {th : TeamHandle} (hi : Inv th) :
    (th.optionList.map (·.val.name)).Nodup := by
  have h := congrArg (List.map (·.name)) hi.options
  simp only [List.map_map, Function.comp_def] at h
  rw [h, optionsOf]
  exact nodup_names_foldl_insertOption _ _ List.nodup_nil

/-- What the `switch` copies is a buffer of the type it names. -/
theorem optionData_wf {nlaType : UInt32} {payload : List UInt8} {o : TeamOption}
    (h : optionData nlaType payload = .ok (some (o.type, o.data))) : OptionDataWF o := by
  rcases o with ⟨type, name, data, changed⟩
  unfold optionData at h
  split_ifs at h
  · split at h <;> cases h
    exact ⟨_, rfl⟩
  · split at h <;> cases h
    exact ⟨_, nlaGetString_not_mem ‹_›, rfl⟩
  · cases h

theorem optionOfItem_wf {it : OptionItem} {o : TeamOption} (h : optionOfItem it = some o) :
    OptionDataWF o := by
  obtain ⟨_, _, _, -, -, hopt⟩ := optionOfItem_eq_some.mp h
  exact optionData_wf hopt

theorem optionDataWF_of_inv {th : TeamHandle} (hi : Inv th) {o : OptionNode}
    (ho : o ∈ th.optionList) : OptionDataWF o.val := by
  have hmem : o.val ∈ optionsOf (latestOptionItems th.trace) :=
    hi.options ▸ List.mem_map_of_mem _ ho
  obtain ⟨it, -, hit⟩ := exists_item_of_mem_optionsOf hmem
  exact optionOfItem_wf hit

/-! ### The getters on a buffer of either type -/

theorem teamGetOptionValueU32_of_u32 {o : TeamOption} {v : UInt32} (h : o.data = u32Bytes v) :
    teamGetOptionValueU32 o = some v := by
  simp [teamGetOptionValueU32, h, u32OfBytes_u32Bytes]

theorem teamGetOptionValueU32_of_string {o : TeamOption} {s : List UInt8}
    (h : o.data = s ++ [0]) :
    teamGetOptionValueU32 o = if 3 ≤ s.length then some (u32OfBytes (s ++ [0])) else none := by
  simp only [teamGetOptionValueU32, h, List.length_append, List.length_singleton]
  split_ifs <;> first | rfl | omega

/-! ### The registries follow the history -/

/-- In every reachable state the handle is what its history of installs and dispatches
says: the port list is the latest installed port batch, one port per item in wire order;
the option list is `optionsOf` the latest installed option batch; and a category is
pending exactly when a snapshot of it was installed since a dispatch last settled it. -/
theorem registries_followHistory {oom : Nat → Bool} {th : TeamHandle} (h : Reachable oom th) :
    (latestPortItems th.trace).Forall₂ (fun it p => portOfItem it = some p)
      (th.portList.map (·.val)) ∧
    th.optionList.map (·.val) = optionsOf (latestOptionItems th.trace) ∧
    ∀ b, th.pendingTypeMask.getLsbD b = true ↔ InstalledSince th.trace b :=
  let hi := inv_of_reachable h
  ⟨hi.ports, hi.options, hi.pending⟩

theorem registries_followHistory_busyInit :
    ∃ th, runApi (fun _ => false) busyInitCalls teamAlloc = .ok th ∧
      Reachable (fun _ => false) th ∧
      (latestPortItems th.trace).Forall₂ (fun it p => portOfItem it = some p)
        (th.portList.map (·.val)) ∧
      th.optionList.map (·.val) = optionsOf (latestOptionItems th.trace) ∧
      ∀ b, th.pendingTypeMask.getLsbD b = true ↔ InstalledSince th.trace b :=
  let h := @reachable_runApi (fun _ => false) busyInitCalls _ rfl
  ⟨_, rfl, h, registries_followHistory h⟩

/-! ### Dispatches -/

/-- In every reachable state, a dispatch with any mask `C` obeys the dispatch law, with `P`
the categories installed since a dispatch last settled them. -/
theorem reachable_dispatch_settleLaw {oom : Nat → Bool} {th : TeamHandle}
    (h : Reachable oom th) (callTypeMask : TeamChangeTypeMask) :
    let th' := checkCallChangeHandlers callTypeMask th
    ∃ calls, th'.trace = th.trace ++ [.check callTypeMask calls] ∧
      SettleLaw (th.changeHandlerList.map (·.val)) callTypeMask (InstalledSince th.trace)
        calls th.pendingTypeMask th'.pendingTypeMask := by
  have hi := inv_of_reachable h
  obtain ⟨calls, htrace, hlaw, -⟩ :=
    checkCallChangeHandlers_settleLaw callTypeMask th hi.pending hi.handlers
  exact ⟨calls, htrace, hlaw⟩

/-- At the end of the busy run OPTION is pending and both handlers are registered; a
dispatch of both categories settles OPTION and calls the second handler only. -/
theorem reachable_dispatch_settleLaw_busyInit :
    ∃ th, runApi (fun _ => false) busyInitCalls teamAlloc = .ok th ∧
      Reachable (fun _ => false) th ∧
      th.changeHandlerList.length = 2 ∧ th.pendingTypeMask = TEAM_OPTION_CHANGE ∧
      ∃ calls, (checkCallChangeHandlers TEAM_ANY_CHANGE th).trace =
          th.trace ++ [.check TEAM_ANY_CHANGE calls] ∧
        SettleLaw (th.changeHandlerList.map (·.val)) TEAM_ANY_CHANGE (InstalledSince th.trace)
          calls th.pendingTypeMask (checkCallChangeHandlers TEAM_ANY_CHANGE th).pendingTypeMask :=
  let h := @reachable_runApi (fun _ => false) busyInitCalls _ rfl
  ⟨_, rfl, h, rfl, rfl, reachable_dispatch_settleLaw h TEAM_ANY_CHANGE⟩

/-! ### The option registry -/

/-- In every reachable state option names are distinct, and for every name the lookup
and both by-name getters see `latestOption`: the option of the first item of recognised
type carrying the name in the latest installed batch. -/
theorem optionRegistry_firstOfLatestBatch {oom : Nat → Bool} {th : TeamHandle}
    (h : Reachable oom th) :
    (th.optionList.map (·.val.name)).Nodup ∧
    ∀ name, (teamGetOptionByName th name).map (·.val) = latestOption th.trace name ∧
      teamGetOptionValueByNameU32 th name =
        (match latestOption th.trace name with
          | none => .error (-ENOENT)
          | some o => .ok (teamGetOptionValueU32 o)) ∧
      teamGetOptionValueByNameString th name =
        (match latestOption th.trace name with
          | none => .error (-ENOENT)
          | some o => .ok (teamGetOptionValueString o)) := by
  have hi := inv_of_reachable h
  refine ⟨nodup_names_of_inv hi, fun name => ?_⟩
  have hget := teamGetOptionByName_of_inv hi name
  rw [← hget, teamGetOptionValueByNameU32, teamGetOptionValueByNameString]
  cases teamGetOptionByName th name <;> exact ⟨rfl, rfl, rfl⟩

/-- At the end of the busy run the latest batch lists `mode` twice, first as a string:
the registry holds the string. -/
theorem optionRegistry_firstOfLatestBatch_busyInit :
    ∃ th, runApi (fun _ => false) busyInitCalls teamAlloc = .ok th ∧
      Reachable (fun _ => false) th ∧
      teamGetOptionValueByNameString th (cstr "mode") = .ok (cstr "ab" ++ [0]) ∧
      (th.optionList.map (·.val.name)).Nodup ∧
      ∀ name, (teamGetOptionByName th name).map (·.val) = latestOption th.trace name ∧
        teamGetOptionValueByNameU32 th name =
          (match latestOption th.trace name with
            | none => .error (-ENOENT)
            | some o => .ok (teamGetOptionValueU32 o)) ∧
        teamGetOptionValueByNameString th name =
          (match latestOption th.trace name with
            | none => .error (-ENOENT)
            | some o => .ok (teamGetOptionValueString o)) :=
  let h := @reachable_runApi (fun _ => false) busyInitCalls _ rfl
  ⟨_, rfl, h, by decide, optionRegistry_firstOfLatestBatch h⟩

/-! ### The by-name getters and the option type -/

/-- An options dump for device 5 binding `activeport` to the empty string. -/
def activePortStringDump : NlMsg :=
  ⟨TEAM_CMD_OPTIONS_GET, some 5, none,
    some [some ⟨some (cstr "activeport" ++ [0]), some NLA_STRING, some [0], false⟩]⟩

/-- `team_init` on device 5 where every call succeeds, the port dump is empty and the
option dump is `activePortStringDump`. -/
def activePortStringInit : InitEnv :=
  ⟨0, 0, 16, 3, 0,
    ⟨true, 20, [.parts [.data ⟨TEAM_CMD_PORT_LIST_GET, some 5, some [], none⟩, .ack]]⟩,
    ⟨true, 20, [.parts [.data activePortStringDump, .ack]]⟩⟩

/-- In every reachable state both by-name getters return 0 whenever an option of the name
exists, whatever its type. On a `__u32` option the `__u32` getter reads its value and the
string getter hands out its four bytes; on a string option `s` the string getter returns
`s` and its NUL, and the `__u32` getter reads four bytes, past the buffer (`none`) when
`s` has fewer than three characters. -/
theorem byNameGetters_ignoreOptionType {oom : Nat → Bool} {th : TeamHandle}
    (h : Reachable oom th) (name : List UInt8) :
    (teamGetOptionValueByNameU32 th name).isOk = (teamGetOptionByName th name).isSome ∧
    (teamGetOptionValueByNameString th name).isOk = (teamGetOptionByName th name).isSome ∧
    ∀ o, (teamGetOptionByName th name).map (·.val) = some o →
      (o.type = .u32 → ∃ v, teamGetOptionValueByNameU32 th name = .ok (some v) ∧
        teamGetOptionValueByNameString th name = .ok (u32Bytes v)) ∧
      (o.type = .string → ∃ s, 0 ∉ s ∧
        teamGetOptionValueByNameString th name = .ok (s ++ [0]) ∧
        teamGetOptionValueByNameU32 th name =
          .ok (if 3 ≤ s.length then some (u32OfBytes (s ++ [0])) else none)) := by
  have hi := inv_of_reachable h
  cases hget : teamGetOptionByName th name with
  | none =>
    simp [teamGetOptionValueByNameU32, teamGetOptionValueByNameString, hget, Except.isOk,
      Except.toBool]
  | some node =>
    simp only [teamGetOptionValueByNameU32, teamGetOptionValueByNameString, hget,
      Option.map_some', Option.some.injEq, forall_eq', teamGetOptionValueString]
    refine ⟨rfl, rfl, ?_⟩
    have hwf := optionDataWF_of_inv hi (List.mem_of_find?_eq_some hget)
    unfold OptionDataWF at hwf
    constructor
    · intro hty
      rw [hty] at hwf
      obtain ⟨v, hv⟩ := hwf
      exact ⟨v, by rw [teamGetOptionValueU32_of_u32 hv], by rw [hv]⟩
    · intro hty
      rw [hty] at hwf
      obtain ⟨s, hs, hdata⟩ := hwf
      exact ⟨s, hs, by rw [hdata], by rw [teamGetOptionValueU32_of_string hdata]⟩

theorem byNameGetters_ignoreOptionType_activePortString :
    ∃ th, runApi (fun _ => false) [.init activePortStringInit 5] teamAlloc = .ok th ∧
      Reachable (fun _ => false) th ∧
      (teamGetOptionValueByNameU32 th (cstr "activeport")).isOk =
        (teamGetOptionByName th (cstr "activeport")).isSome ∧
      (teamGetOptionValueByNameString th (cstr "activeport")).isOk =
        (teamGetOptionByName th (cstr "activeport")).isSome ∧
      ∀ o, (teamGetOptionByName th (cstr "activeport")).map (·.val) = some o →
        (o.type = .u32 → ∃ v,
          teamGetOptionValueByNameU32 th (cstr "activeport") = .ok (some v) ∧
          teamGetOptionValueByNameString th (cstr "activeport") = .ok (u32Bytes v)) ∧
        (o.type = .string → ∃ s, 0 ∉ s ∧
          teamGetOptionValueByNameString th (cstr "activeport") = .ok (s ++ [0]) ∧
          teamGetOptionValueByNameU32 th (cstr "activeport") =
            .ok (if 3 ≤ s.length then some (u32OfBytes (s ++ [0])) else none)) :=
  let h := @reachable_runApi (fun _ => false) [.init activePortStringInit 5] _ rfl
  ⟨_, rfl, h, byNameGetters_ignoreOptionType h (cstr "activeport")⟩

/-- After that `team_init`, `team_get_active_port` returns 0 on the string option, reading
past its one-byte buffer. -/
theorem activePort_readsStringOption :
    ∃ th, runApi (fun _ => false) [.init activePortStringInit 5] teamAlloc = .ok th ∧
      Reachable (fun _ => false) th ∧
      (teamGetOptionByName th (cstr "activeport")).map (·.val.type) = some .string ∧
      teamGetActivePort th = .ok none :=
  ⟨_, rfl, @reachable_runApi _ [.init activePortStringInit 5] _ rfl, by decide, by decide⟩

end Libteam
