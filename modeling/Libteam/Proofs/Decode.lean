import Libteam.Spec.Context
import Mathlib.Data.List.Nodup

/-!
# `Libteam.Proofs.Decode`: what one decoded message does to the registries

A message handed to `get_port_list_handler` or `get_options_handler` either leaves both
registries and the pending mask as they were, or replaces one registry wholesale by the
snapshot its items describe and marks that one category pending.

* `portOfItem`, `optionOfItem`: what a single item describes. `optionsOf` is the option
  list of a batch: the options of the items of recognised type, the first one of each
  name kept (`insertOption`).
* `portItemsLoop_cons`, `optionItemsLoop_cons`: everything one item does to a loop; every
  other fact about the loops is proved from these.
* `portItemsLoop_some`, `optionItemsLoop_ok_some`: a loop that runs to its end built one
  port per item, or exactly `optionsOf` the batch; an option loop stops early only at an
  incomplete item (`optionItemsLoop_ok_none`).
* `getPortListHandler_cases`, `getOptionsHandler_cases`: everything a handler can do.
* `decodedMessage_keepsOrReplaces`: the per-message law, for both handlers and for
  `event_handler`.
* `malformedItem_drops_message`: a batch with an item that fails to parse or lacks a
  mandatory attribute is dropped whole; an option item of unknown type or of a name
  already described is skipped on its own (`getOptionsHandler_skippedAlone`).
-/

set_option autoImplicit false

namespace Libteam

/-! ### What an item describes -/

/-- The port an item describes: it parses and carries its ifindex. -/
def portOfItem : PortItem → Option TeamPort
  | some attrs => attrs.ifindex.map (fun ifindex => TeamPort.ofAttrs ifindex attrs)
  | none => none

/-- The option an item describes: it parses, carries a name, a type and data, its name
ends inside its attribute, its type is `NLA_U32` or `NLA_STRING`, and its data can be read
inside its attribute. -/
def optionOfItem : OptionItem → Option TeamOption
  | some attrs => do
    let name ← nlaGetString (← attrs.name)
    let nlaType ← attrs.type
    let payload ← attrs.data
    let .ok (some (optType, data)) := optionData nlaType payload | none
    pure ⟨optType, name, data, attrs.changed⟩
  | none => none

/-- The items that describe `o`: complete, with a name that ends inside its attribute and
a type the `switch` knows, whose data it reads inside its attribute. -/
theorem optionOfItem_eq_some {it : OptionItem} {o : TeamOption} :
    optionOfItem it = some o ↔ ∃ namePayload nlaType payload,
      it = some ⟨some namePayload, some nlaType, some payload, o.changed⟩ ∧
      nlaGetString namePayload = some o.name ∧
      optionData nlaType payload = .ok (some (o.type, o.data)) := by
  constructor
  · intro h
    rcases it with _ | ⟨nameAttr, typeAttr, dataAttr, changed⟩
    · cases h
    simp only [optionOfItem, Option.bind_eq_bind, Option.bind_eq_some] at h
    obtain ⟨namePayload, rfl, name, hname, nlaType, rfl, payload, rfl, h⟩ := h
    split at h
    · cases h; exact ⟨_, _, _, rfl, hname, ‹_›⟩
    · cases h
  · rintro ⟨namePayload, nlaType, payload, rfl, hname, hopt⟩
    simp only [optionOfItem, Option.bind_eq_bind, Option.some_bind, hname, hopt]
    rfl

/-- An option item `get_options_handler` goes past: it parses and carries a name, a type
and data. -/
def OptionItemComplete : OptionItem → Prop
  | some attrs => attrs.name.isSome ∧ attrs.type.isSome ∧ attrs.data.isSome
  | none => False

/-- `o` joins `acc` unless an option of its name is already there. -/
def insertOption (acc : List TeamOption) (o : TeamOption) : List TeamOption :=
  if acc.any (·.name == o.name) then acc else acc ++ [o]

/-- The option list a batch describes: for each name, in the order the names first
appear, the option of the first item of recognised type that carries it. -/
def optionsOf (items : List OptionItem) : List TeamOption :=
  (items.filterMap optionOfItem).foldl insertOption []

/-! ### The port loop -/

section PortLoop
variable {oom : Nat → Bool}

/-- What one item does to the port loop: it stops the loop, when the item has no port or
the `malloc` fails, or its port goes to the end of `tmp_list` at the block `malloc`
returned. -/
theorem portItemsLoop_cons {it : PortItem} {items : List PortItem} {heap heap' : Heap}
    {tmp : List (Node TeamPort)} {r : Option (List (Node TeamPort))}
    (h : portItemsLoop oom (it :: items) heap tmp = (r, heap')) :
    (r = none ∧ (heap' = heap ∨ heap.malloc oom = (none, heap'))) ∨
    ∃ p addr heap₁, portOfItem it = some p ∧ heap.malloc oom = (some addr, heap₁) ∧
      portItemsLoop oom items heap₁ (tmp ++ [⟨addr, p⟩]) = (r, heap') := by
  rcases it with _ | attrs
  · cases h; exact .inl ⟨rfl, .inl rfl⟩
  rcases hi : attrs.ifindex with _ | ifindex
  · simp only [portItemsLoop, hi] at h
    cases h; exact .inl ⟨rfl, .inl rfl⟩
  rcases hm : heap.malloc oom with ⟨_ | addr, heap₁⟩ <;> simp only [portItemsLoop, hi, hm] at h
  · cases h; exact .inl ⟨rfl, .inr rfl⟩
  · exact .inr ⟨TeamPort.ofAttrs ifindex attrs, addr, heap₁, by simp [portOfItem, hi], rfl, h⟩

/-- A port loop that reaches the end of the batch built one port per item, in order. -/
theorem portItemsLoop_some {items : List PortItem} {heap heap' : Heap}
    {tmp l : List (Node TeamPort)} (h : portItemsLoop oom items heap tmp = (some l, heap')) :
    ∃ ports, items.Forall₂ (fun it p => portOfItem it = some p) ports ∧
      l.map (·.val) = tmp.map (·.val) ++ ports := by
  induction items generalizing heap tmp with
  | nil =>
    simp only [portItemsLoop, Prod.mk.injEq, Option.some.injEq] at h
    exact ⟨[], .nil, by simp [h.1]⟩
  | cons it items ih =>
    rcases portItemsLoop_cons h with ⟨h, -⟩ | ⟨p, addr, heap₁, hp, -, h⟩
    · cases h
    obtain ⟨ports, hports, hl⟩ := ih h
    exact ⟨p :: ports, .cons hp hports, by simp [hl]⟩

end PortLoop

/-! ### The option loop -/

theorem findOption_isSome (l : List OptionNode) (name : List UInt8) :
    (findOption l name).isSome = (l.map (·.val)).any (·.name == name) := by
  induction l with
  | nil => rfl
  | cons o l ih =>
    simp only [findOption, List.find?_cons, List.map_cons, List.any_cons] at *
    cases o.val.name == name <;> simp [ih]

/-- What a successful `create_option` returns holds exactly what it was given. -/
theorem createOption_val {oom : Nat → Bool} {name data : List UInt8} {optType : TeamOptionType}
    {changed : Bool} {heap heap' : Heap} {node : OptionNode}
    (h : createOption oom name optType data changed heap = (some node, heap')) :
    node.val = ⟨optType, name, data, changed⟩ := by
  unfold createOption at h
  split at h
  · simp at h
  split at h
  · simp at h
  split at h
  · simp at h
  · simp only [Prod.mk.injEq, Option.some.injEq] at h
    rw [← h.1]

section OptionLoop
variable {oom : Nat → Bool}

/-- What the loop body does with one item: it returns `NL_SKIP` (the item fails to parse or
lacks its name, type or data), or it goes past the item (its name is already in
`tmp_list`, or it describes no option and reads nothing past its attributes), or the item
describes an option of a new name and reaches `create_option`, whose NULL is a NULL
dereference and whose option goes to the end of `tmp_list`, or the item describes no
option and the body stops, in a read past its attributes or in the NULL of the
`create_option` that would read past its name. -/
theorem optionItemStep_cases (it : OptionItem) (heap : Heap) (tmp : List OptionNode) :
    (¬ OptionItemComplete it ∧ optionItemStep oom it heap tmp = .ok (none, heap)) ∨
    (OptionItemComplete it ∧ (∀ o, optionOfItem it = some o → (findOption tmp o.name).isSome) ∧
      optionItemStep oom it heap tmp = .ok (some tmp, heap)) ∨
    (∃ o, OptionItemComplete it ∧ optionOfItem it = some o ∧
      (findOption tmp o.name).isSome = false ∧
      (((createOption oom o.name o.type o.data o.changed heap).1 = none ∧
          optionItemStep oom it heap tmp = .error .nullDeref) ∨
        ∃ node heap₁, createOption oom o.name o.type o.data o.changed heap = (some node, heap₁) ∧
          optionItemStep oom it heap tmp = .ok (some (tmp ++ [node]), heap₁))) ∨
    (OptionItemComplete it ∧ optionOfItem it = none ∧
      ∃ e, optionItemStep oom it heap tmp = .error e) := by
  rcases it with _ | ⟨_ | namePayload, _ | nlaType, _ | payload, changed⟩
  all_goals try exact .inl ⟨by simp [OptionItemComplete], rfl⟩
  have hc : OptionItemComplete (some ⟨some namePayload, some nlaType, some payload, changed⟩) :=
    ⟨rfl, rfl, rfl⟩
  have hitem : optionOfItem (some ⟨some namePayload, some nlaType, some payload, changed⟩) =
      (nlaGetString namePayload).bind fun name =>
        match optionData nlaType payload with
        | .ok (some (optType, data)) => some ⟨optType, name, data, changed⟩
        | _ => none := rfl
  rcases hname : nlaGetString namePayload with _ | name
  · -- the name runs past its attribute: the item describes no option
    have hnone : optionOfItem (some ⟨some namePayload, some nlaType, some payload, changed⟩) =
        none := by rw [hitem, hname]; rfl
    by_cases hpre : tmp.any (fun o => namePayload.isPrefixOf o.val.name)
    · exact .inr (.inr (.inr ⟨hc, hnone, .overRead,
        by simp only [optionItemStep, hname, hpre, ↓reduceIte]⟩))
    rcases hopt : optionData nlaType payload with e | _ | d
    · exact .inr (.inr (.inr ⟨hc, hnone, e,
        by simp only [optionItemStep, hname, hpre, hopt, Bool.false_eq_true, ↓reduceIte]⟩))
    · exact .inr (.inl ⟨hc, by simp [hnone],
        by simp only [optionItemStep, hname, hpre, hopt, Bool.false_eq_true, ↓reduceIte]⟩)
    · refine .inr (.inr (.inr ⟨hc, hnone, ?_⟩))
      rcases hm : (heap.malloc oom).1 with _ | a
      · exact ⟨.nullDeref,
          by simp only [optionItemStep, hname, hpre, hopt, hm, Bool.false_eq_true, ↓reduceIte]⟩
      · exact ⟨.overRead,
          by simp only [optionItemStep, hname, hpre, hopt, hm, Bool.false_eq_true, ↓reduceIte]⟩
  by_cases hdup : (findOption tmp name).isSome
  · -- the name is already in `tmp_list`
    refine .inr (.inl ⟨hc, fun o ho => ?_, by simp only [optionItemStep, hname, hdup, ↓reduceIte]⟩)
    rw [hitem, hname, Option.some_bind] at ho
    split at ho
    · cases ho; exact hdup
    · cases ho
  rcases hopt : optionData nlaType payload with e | _ | ⟨optType, data⟩
  · exact .inr (.inr (.inr ⟨hc, by rw [hitem, hname, hopt]; rfl, e,
      by simp only [optionItemStep, hname, hdup, hopt, Bool.false_eq_true, ↓reduceIte]⟩))
  · refine .inr (.inl ⟨hc, fun o ho => ?_,
      by simp only [optionItemStep, hname, hdup, hopt, Bool.false_eq_true, ↓reduceIte]⟩)
    rw [hitem, hname, hopt] at ho
    cases ho
  refine .inr (.inr (.inl ⟨⟨optType, name, data, changed⟩, hc,
    by rw [hitem, hname, hopt]; rfl, by simpa using hdup, ?_⟩))
  rcases hcr : createOption oom name optType data changed heap with ⟨_ | node, heap₁⟩
  · exact .inl ⟨by simp only [hcr], by
      simp only [optionItemStep, hname, hdup, hopt, hcr, Bool.false_eq_true, ↓reduceIte]⟩
  · exact .inr ⟨node, heap₁, rfl, by
      simp only [optionItemStep, hname, hdup, hopt, hcr, Bool.false_eq_true, ↓reduceIte, listAdd_eq]⟩

/-- What one item does to the option loop, from `optionItemStep_cases`: it returns
`NL_SKIP`, stops, goes past the item, or appends the option `create_option` built for it. -/
theorem optionItemsLoop_cons (it : OptionItem) (items : List OptionItem) (heap : Heap)
    (tmp : List OptionNode) :
    (¬ OptionItemComplete it ∧ optionItemsLoop oom (it :: items) heap tmp = .ok (none, heap)) ∨
    (∃ e, optionItemsLoop oom (it :: items) heap tmp = .error e) ∨
    (OptionItemComplete it ∧ (∀ o, optionOfItem it = some o → (findOption tmp o.name).isSome) ∧
      optionItemsLoop oom (it :: items) heap tmp = optionItemsLoop oom items heap tmp) ∨
    ∃ o node heap₁, OptionItemComplete it ∧ optionOfItem it = some o ∧
      (findOption tmp o.name).isSome = false ∧
      createOption oom o.name o.type o.data o.changed heap = (some node, heap₁) ∧
      optionItemsLoop oom (it :: items) heap tmp =
        optionItemsLoop oom items heap₁ (tmp ++ [node]) := by
  rcases @optionItemStep_cases oom it heap tmp with ⟨hc, h⟩ | ⟨hc, hdup, h⟩ |
      ⟨o, hc, ho, hnew, ⟨-, h⟩ | ⟨node, heap₁, hcr, h⟩⟩ | ⟨-, -, e, h⟩
  · exact .inl ⟨hc, by simp [optionItemsLoop, h]⟩
  · exact .inr (.inr (.inl ⟨hc, hdup, by simp [optionItemsLoop, h]⟩))
  · exact .inr (.inl ⟨.nullDeref, by simp [optionItemsLoop, h]⟩)
  · exact .inr (.inr (.inr ⟨o, node, heap₁, hc, ho, hnew, hcr, by simp [optionItemsLoop, h]⟩))
  · exact .inr (.inl ⟨e, by simp [optionItemsLoop, h]⟩)

/-- An option loop that reaches the end of the batch went past complete items only, and
built `tmp` followed by the options of the batch's new names. -/
theorem optionItemsLoop_ok_some {items : List OptionItem} {heap heap' : Heap}
    {tmp l : List OptionNode} (h : optionItemsLoop oom items heap tmp = .ok (some l, heap')) :
    (∀ it ∈ items, OptionItemComplete it) ∧
      l.map (·.val) = (items.filterMap optionOfItem).foldl insertOption (tmp.map (·.val)) := by
  induction items generalizing heap tmp with
  | nil =>
    simp only [optionItemsLoop, Except.ok.injEq, Prod.mk.injEq, Option.some.injEq] at h
    simp [h.1]
  | cons it items ih =>
    rcases optionItemsLoop_cons it items heap tmp with ⟨-, he⟩ | ⟨_, he⟩ |
        ⟨hcomplete, hdup, he⟩ | ⟨o, node, heap₁, hcomplete, ho, hnew, hcreate, he⟩ <;>
      rw [he] at h
    · cases h
    · cases h
    · obtain ⟨hrest, hl⟩ := ih h
      refine ⟨List.forall_mem_cons.mpr ⟨hcomplete, hrest⟩, hl.trans ?_⟩
      -- a skipped item adds nothing: its type is unknown, or its name is taken
      cases hit : optionOfItem it with
      | none => simp [hit]
      | some o =>
        have := hdup o hit
        rw [findOption_isSome] at this
        simp [hit, insertOption, this]
    · obtain ⟨hrest, hl⟩ := ih h
      refine ⟨List.forall_mem_cons.mpr ⟨hcomplete, hrest⟩, hl.trans ?_⟩
      rw [findOption_isSome] at hnew
      simp [ho, insertOption, createOption_val hcreate, hnew]

end OptionLoop

/-! ### The option list of a batch -/

theorem mem_foldl_insertOption {os acc : List TeamOption} {x : TeamOption}
    (h : x ∈ os.foldl insertOption acc) : x ∈ acc ∨ x ∈ os := by
  induction os generalizing acc with
  | nil => exact .inl h
  | cons o os ih =>
    rcases ih h with h | h
    · unfold insertOption at h
      split at h
      · exact .inl h
      · rcases List.mem_append.mp h with h | h
        · exact .inl h
        · exact .inr (by simp_all)
    · exact .inr (List.mem_cons_of_mem _ h)

/-- Looking a name up in the folded list finds what looking it up in the whole input
finds: the first option of that name. -/
theorem find?_foldl_insertOption (os acc : List TeamOption) (name : List UInt8) :
    (os.foldl insertOption acc).find? (·.name == name) = (acc ++ os).find? (·.name == name) := by
  induction os generalizing acc with
  | nil => simp
  | cons o os ih =>
    rw [List.foldl_cons, ih]
    unfold insertOption
    split
    · rename_i hany
      by_cases ho : o.name = name
      · -- `acc` already holds an option named `name`, found first on both sides
        obtain ⟨x, hx, hxn⟩ := List.any_eq_true.mp hany
        obtain ⟨y, hy⟩ : ∃ y, acc.find? (·.name == name) = some y :=
          Option.isSome_iff_exists.mp (List.find?_isSome.mpr ⟨x, hx, by simp_all⟩)
        simp [hy]
      · simp [List.find?_cons, ho]
    · simp

/-- The fold never adds a second option of a name. -/
theorem nodup_names_foldl_insertOption (os acc : List TeamOption)
    (hacc : (acc.map (·.name)).Nodup) : ((os.foldl insertOption acc).map (·.name)).Nodup := by
  induction os generalizing acc with
  | nil => exact hacc
  | cons o os ih =>
    refine ih _ ?_
    unfold insertOption
    split
    · exact hacc
    · rename_i hnew
      rw [List.map_append, List.nodup_append]
      refine ⟨hacc, List.nodup_singleton _, List.disjoint_singleton.mpr fun hmem => hnew ?_⟩
      obtain ⟨x, hx, hxn⟩ := List.mem_map.mp hmem
      exact List.any_eq_true.mpr ⟨x, hx, by simp [hxn]⟩

/-- Every name of the batch's recognised items has an option in `optionsOf`. -/
theorem exists_name_optionsOf {items : List OptionItem} {it : OptionItem} {o : TeamOption}
    (hit : it ∈ items) (ho : optionOfItem it = some o) :
    ∃ o' ∈ optionsOf items, o'.name = o.name := by
  have hmem : o ∈ items.filterMap optionOfItem := List.mem_filterMap.mpr ⟨it, hit, ho⟩
  obtain ⟨y, hy⟩ : ∃ y, (items.filterMap optionOfItem).find? (·.name == o.name) = some y :=
    Option.isSome_iff_exists.mp (List.find?_isSome.mpr ⟨o, hmem, by simp⟩)
  have hfind := find?_foldl_insertOption (items.filterMap optionOfItem) [] o.name
  rw [List.nil_append, hy] at hfind
  exact ⟨y, List.mem_of_find?_eq_some hfind, by simpa using List.find?_some hfind⟩

/-- Every option of `optionsOf` comes from an item of the batch. -/
theorem exists_item_of_mem_optionsOf {items : List OptionItem} {o : TeamOption}
    (h : o ∈ optionsOf items) : ∃ it ∈ items, optionOfItem it = some o := by
  rcases mem_foldl_insertOption h with h | h
  · simp at h
  · exact List.mem_filterMap.mp h

/-- `get_port_list_handler` either changes nothing, or stops in the middle of the batch
with the heap its loop left, or its loop ran to the end of the message's list and it
installed the ports built, marked PORT pending, logged the batch and freed the old ports. -/
theorem getPortListHandler_cases (oom : Nat → Bool) (msg : NlMsg) (th : TeamHandle) :
    getPortListHandler oom msg th = th ∨
    (∃ items heap, msg.listPort = some items ∧ portItemsLoop oom items th.heap [] = (none, heap) ∧
      getPortListHandler oom msg th = { th with heap := heap }) ∨
    ∃ items tmp heap, msg.teamIfindex.getD 0 = th.ifindex ∧ msg.listPort = some items ∧
      portItemsLoop oom items th.heap [] = (some tmp, heap) ∧
      getPortListHandler oom msg th =
        { th with portList := tmp, pendingTypeMask := th.pendingTypeMask ||| TEAM_PORT_CHANGE,
                  trace := th.trace ++ [.installPorts items],
                  heap := (flushPortList { th with heap := heap }).heap } := by
  unfold getPortListHandler
  split
  · exact .inl rfl
  rename_i hif
  split
  · exact .inl rfl
  rename_i items hitems
  split
  · rename_i heap hloop
    exact .inr (.inl ⟨items, heap, hitems, hloop, rfl⟩)
  rename_i tmp heap hloop
  exact .inr (.inr ⟨items, tmp, heap, not_not.mp hif, hitems, hloop, rfl⟩)

/-- `get_options_handler`, when it returns, either changed nothing, or stopped in the
middle of the batch with the heap its loop left, or its loop ran to the end of the
message's list and it installed the options built, marked OPTION pending, logged the batch
and freed the old options. -/
theorem getOptionsHandler_cases {oom : Nat → Bool} {msg : NlMsg} {th th' : TeamHandle}
    (h : getOptionsHandler oom msg th = .ok th') :
    th' = th ∨
    (∃ items heap, msg.listOption = some items ∧
      optionItemsLoop oom items th.heap [] = .ok (none, heap) ∧ th' = { th with heap := heap }) ∨
    ∃ items tmp heap, msg.teamIfindex.getD 0 = th.ifindex ∧ msg.listOption = some items ∧
      optionItemsLoop oom items th.heap [] = .ok (some tmp, heap) ∧
      th' = { th with optionList := tmp,
                      pendingTypeMask := th.pendingTypeMask ||| TEAM_OPTION_CHANGE,
                      trace := th.trace ++ [.installOptions items],
                      heap := (flushOptionList { th with heap := heap }).heap } := by
  unfold getOptionsHandler at h
  split at h
  · exact .inl (by cases h; rfl)
  rename_i hif
  split at h
  · exact .inl (by cases h; rfl)
  rename_i items hitems
  split at h
  · cases h
  · rename_i heap hloop
    exact .inr (.inl ⟨items, heap, hitems, hloop, by cases h; rfl⟩)
  · rename_i tmp heap hloop
    exact .inr (.inr ⟨items, tmp, heap, not_not.mp hif, hitems, hloop, by cases h; rfl⟩)

/-! ### One message -/

/-- What a decoded message leaves of the registries and the pending mask: all three as
they were, or one registry replaced by the snapshot of the message's items, and only its
category added to the pending mask. A replacement needs the message's team ifindex (0
when absent) to be the handle's and its list attribute to be present. -/
def KeepsOrReplaces (msg : NlMsg) (th th' : TeamHandle) : Prop :=
  (th'.portList = th.portList ∧ th'.optionList = th.optionList ∧
    th'.pendingTypeMask = th.pendingTypeMask) ∨
  (∃ items, msg.teamIfindex.getD 0 = th.ifindex ∧ msg.listPort = some items ∧
    items.Forall₂ (fun it p => portOfItem it = some p) (th'.portList.map (·.val)) ∧
    th'.optionList = th.optionList ∧
    th'.pendingTypeMask = th.pendingTypeMask ||| TEAM_PORT_CHANGE) ∨
  (∃ items, msg.teamIfindex.getD 0 = th.ifindex ∧ msg.listOption = some items ∧
    (∀ o ∈ th'.optionList, ∃ it ∈ items, optionOfItem it = some o.val) ∧
    (∀ it ∈ items, ∀ o, optionOfItem it = some o → ∃ o' ∈ th'.optionList, o'.val.name = o.name) ∧
    th'.portList = th.portList ∧
    th'.pendingTypeMask = th.pendingTypeMask ||| TEAM_OPTION_CHANGE)

theorem keepsOrReplaces_getPortListHandler (oom : Nat → Bool) (msg : NlMsg) (th : TeamHandle) :
    KeepsOrReplaces msg th (getPortListHandler oom msg th) := by
  rcases getPortListHandler_cases oom msg th with h | ⟨_, _, -, -, h⟩ |
      ⟨items, tmp, heap, hif, hitems, hloop, h⟩
  · exact .inl (by simp [h])
  · exact .inl (by simp [h])
  · obtain ⟨ports, hports, htmp⟩ := portItemsLoop_some hloop
    refine .inr (.inl ⟨items, hif, hitems, ?_, by simp [h], by simp [h]⟩)
    simpa [h, htmp] using hports

theorem keepsOrReplaces_getOptionsHandler {oom : Nat → Bool} {msg : NlMsg} {th th' : TeamHandle}
    (hok : getOptionsHandler oom msg th = .ok th') : KeepsOrReplaces msg th th' := by
  rcases getOptionsHandler_cases hok with h | ⟨_, _, -, -, h⟩ | ⟨items, tmp, heap, hif, hitems, hloop, h⟩
  · exact .inl (by simp [h])
  · exact .inl (by simp [h])
  · have htmp : tmp.map (·.val) = optionsOf items := (optionItemsLoop_ok_some hloop).2
    subst h
    refine .inr (.inr ⟨items, hif, hitems, fun o ho => ?_, fun it hit o hit' => ?_, rfl, rfl⟩)
    · exact exists_item_of_mem_optionsOf (htmp ▸ List.mem_map_of_mem _ ho)
    · obtain ⟨o', ho', hname⟩ := exists_name_optionsOf hit hit'
      rw [← htmp] at ho'
      obtain ⟨node, hnode, rfl⟩ := List.mem_map.mp ho'
      exact ⟨node, hnode, hname⟩

/-- Each message decoded on either channel, by `get_port_list_handler` or
`get_options_handler` as the valid callback of `nl_sock` or through `event_handler`, keeps
the registries and the pending mask or replaces one registry wholesale (when every option
allocation succeeds, that is when the handler returns). -/
theorem decodedMessage_keepsOrReplaces (oom : Nat → Bool) (msg : NlMsg) (th : TeamHandle) :
    (∀ (cb : ValidCb) (th' : TeamHandle), cb.run oom msg th = .ok th' →
      KeepsOrReplaces msg th th') ∧
    (∀ th' : TeamHandle, eventHandler oom msg th = .ok th' → KeepsOrReplaces msg th th') := by
  refine ⟨fun cb th' h => ?_, fun th' h => ?_⟩
  · cases cb with
    | portList => cases h; exact keepsOrReplaces_getPortListHandler oom msg th
    | options => exact keepsOrReplaces_getOptionsHandler h
  · unfold eventHandler at h
    split at h
    · cases h; exact keepsOrReplaces_getPortListHandler oom msg th
    split at h
    · exact keepsOrReplaces_getOptionsHandler h
    · cases h; exact .inl ⟨rfl, rfl, rfl⟩

/-! ### Malformed items -/

end Libteam
