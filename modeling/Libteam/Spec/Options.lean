import Libteam.Spec.ChangeHandlers

/-!
# `Libteam.Spec.Options`: the option registry

`get_options_handler` (`libteam.c:583-666`) decodes an options message. Like the port
handler it ignores a message for another device or without `TEAM_ATTR_LIST_OPTION`, and
returns `NL_SKIP` in the middle of the batch when an item fails to parse or lacks its
name, type or data. Two kinds of item are skipped with `continue` instead: an item whose
name is already in `tmp_list` (`__find_option`), and an item whose type is neither
`NLA_U32` nor `NLA_STRING`. The name check comes first, so an item of unknown type never
enters `tmp_list` and a later item with its name still can.

`create_option` makes three allocations, the option and its two buffers, and returns
`NULL` when one fails, after freeing what it had. `get_options_handler` passes its result
to `list_add` unchecked: a failed `create_option` is a NULL dereference, `Stop.nullDeref`.

The name is read where the code reads it. `nla_get_string` only returns a pointer; the
bytes are read by `strcmp` in `__find_option`, against each option of `tmp_list`, and by
`strlen` in `create_option`, after its first `malloc`. The data is read in the `switch`,
before `create_option`. When one of these reads runs past its attribute, the handler's
result depends on bytes the model does not hold: `Stop.overRead`. A name whose payload
holds no NUL and fills its attribute (`nlaGetString` is `none`) is read past by `strcmp`
exactly when it is a prefix of the name of an option in `tmp_list`.

The getters read the data buffer through the type the caller asks for. Neither by-name
getter looks at the option's type.
-/

set_option autoImplicit false

namespace Libteam

/-- The bytes of an ASCII C string literal. -/
def cstr (s : String) : List UInt8 := s.toList.map (fun c => c.toNat.toUInt8)

/-- `flush_option_list`: every option is unlinked, and its name, its data and the option
itself are freed. -/
def flushOptionList (th : TeamHandle) : TeamHandle :=
  { th with
    optionList := []
    heap := th.optionList.foldl (fun h o => ((h.free o.nameAddr).free o.dataAddr).free o.addr)
      th.heap }

/-- `create_option`: `none` when one of its three allocations fails. -/
def createOption (oom : Nat → Bool) (name : List UInt8) (optType : TeamOptionType)
    (data : List UInt8) (changed : Bool) (heap : Heap) : Option OptionNode × Heap :=
  match heap.malloc oom with
  | (none, heap) => (none, heap)
  | (some addr, heap) =>
    match heap.malloc oom with
    | (none, heap) => (none, heap.free addr)
    | (some nameAddr, heap) =>
      match heap.malloc oom with
      | (none, heap) => (none, (heap.free nameAddr).free addr)
      | (some dataAddr, heap) =>
        (some ⟨addr, nameAddr, dataAddr, ⟨optType, name, data, changed⟩⟩, heap)

/-- `__find_option`: the first option whose name is `name` (`strcmp` is 0). -/
def findOption (l : List OptionNode) (name : List UInt8) : Option OptionNode :=
  l.find? (fun o => o.val.name == name)

/-- The `switch (nla_type)` of `get_options_handler`: the option type and the bytes of the
data buffer for a data payload, or `none` for an unknown type. A `__u32` is copied from
`arg`, a string with its NUL (`strlen(str) + 1` bytes). -/
def optionData (nlaType : UInt32) (payload : List UInt8) :
    Except Stop (Option (TeamOptionType × List UInt8)) :=
  if nlaType = NLA_U32 then
    match nlaGetU32 payload with
    | some v => .ok (some (.u32, u32Bytes v))
    | none => .error .overRead
  else if nlaType = NLA_STRING then
    match nlaGetString payload with
    | some str => .ok (some (.string, str ++ [0]))
    | none => .error .overRead
  else .ok none

/-- The body of the `nla_for_each_nested` loop of `get_options_handler` on one item, with
the options `tmp` built so far: `none` for its `return NL_SKIP`, otherwise `tmp_list` after
the item (a `continue` leaves it as it was), with the heap as it is then. -/
def optionItemStep (oom : Nat → Bool) (it : OptionItem) (heap : Heap)
    (tmp : List OptionNode) : Except Stop (Option (List OptionNode) × Heap) :=
  match it with
  | none => .ok (none, heap)
  | some attrs =>
    match attrs.name, attrs.type, attrs.data with
    | some namePayload, some nlaType, some payload =>
      match nlaGetString namePayload with
      | some name =>
        if (findOption tmp name).isSome then .ok (some tmp, heap)
        else
          match optionData nlaType payload with
          | .error e => .error e
          | .ok none => .ok (some tmp, heap)
          | .ok (some (optType, data)) =>
            match createOption oom name optType data attrs.changed heap with
            | (none, _) => .error .nullDeref
            | (some option, heap) => .ok (some (listAdd tmp option), heap)
      | none =>
        -- the name runs past its attribute
        if tmp.any (fun o => namePayload.isPrefixOf o.val.name) then .error .overRead
        else
          match optionData nlaType payload with
          | .error e => .error e
          | .ok none => .ok (some tmp, heap)
          | .ok (some _) =>
            -- `create_option` reads the name after its first `malloc`
            match (heap.malloc oom).1 with
            | none => .error .nullDeref
            | some _ => .error .overRead
    | _, _, _ => .ok (none, heap)

/-- The `nla_for_each_nested` loop of `get_options_handler`, from the options `tmp` built
so far: the finished `tmp_list`, or `none` when the handler returns `NL_SKIP` in the
middle of the batch, with the heap as it is then. -/
def optionItemsLoop (oom : Nat → Bool) :
    List OptionItem → Heap → List OptionNode → Except Stop (Option (List OptionNode) × Heap)
  | [], heap, tmp => .ok (some tmp, heap)
  | it :: items, heap, tmp =>
    match optionItemStep oom it heap tmp with
    | .error e => .error e
    | .ok (none, heap) => .ok (none, heap)
    | .ok (some tmp, heap) => optionItemsLoop oom items heap tmp

/-- `get_options_handler`. -/
def getOptionsHandler (oom : Nat → Bool) (msg : NlMsg) (th : TeamHandle) :
    Except Stop TeamHandle :=
  if msg.teamIfindex.getD 0 ≠ th.ifindex then .ok th
  else
    match msg.listOption with
    | none => .ok th
    | some items =>
      match optionItemsLoop oom items th.heap [] with
      | .error e => .error e
      | .ok (none, heap) => .ok { th with heap := heap }
      | .ok (some tmp, heap) =>
        let th := flushOptionList { th with heap := heap }
        .ok (setCallChangeHandlers TEAM_OPTION_CHANGE
          { th with
            optionList := listMoveNodes th.optionList tmp
            trace := th.trace ++ [.installOptions items] })

/-- `team_get_option_by_name`. -/
def teamGetOptionByName (th : TeamHandle) (name : List UInt8) : Option OptionNode :=
  findOption th.optionList name

/-- `team_get_next_option`: the option after `option`, the first one for NULL. -/
def teamGetNextOption (th : TeamHandle) (option : Option Nat) : Option (Option OptionNode) :=
  listGetNextNodeEntry (·.addr) th.optionList option

/-- `team_get_option_value_u32`: `*((__u32 *) option->data)`, or `none` when the data
buffer is shorter than four bytes and the read runs past it. -/
def teamGetOptionValueU32 (option : TeamOption) : Option UInt32 :=
  if 4 ≤ option.data.length then some (u32OfBytes option.data) else none

/-- `team_get_option_value_string`: the data buffer itself. -/
def teamGetOptionValueString (option : TeamOption) : List UInt8 := option.data

/-- `team_get_option_value_by_name_u32`: `.error e` for a return of `e`, `.ok v` for a
return of 0 after storing `v` through `u32_ptr`. -/
def teamGetOptionValueByNameU32 (th : TeamHandle) (name : List UInt8) :
    Except Int (Option UInt32) :=
  match teamGetOptionByName th name with
  | none => .error (-ENOENT)
  | some option => .ok (teamGetOptionValueU32 option.val)

/-- `team_get_option_value_by_name_string`, in the same convention. -/
def teamGetOptionValueByNameString (th : TeamHandle) (name : List UInt8) :
    Except Int (List UInt8) :=
  match teamGetOptionByName th name with
  | none => .error (-ENOENT)
  | some option => .ok (teamGetOptionValueString option.val)

/-- `team_get_mode_name`. -/
def teamGetModeName (th : TeamHandle) : Except Int (List UInt8) :=
  teamGetOptionValueByNameString th (cstr "mode")

/-- `team_get_active_port`. -/
def teamGetActivePort (th : TeamHandle) : Except Int (Option UInt32) :=
  teamGetOptionValueByNameU32 th (cstr "activeport")

end Libteam
