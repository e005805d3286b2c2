import Libteam.Proofs.System

/-!
# `Libteam.Proofs.Memory`: the blocks the lists own

The blocks the handle's lists reach (`TeamHandle.reachableAddrs`) are the port nodes, the
option nodes with their name and data buffers, and the change-handler items. `HeapInv`
says that no two of them are the same block and that all of them are live, in a heap where
no block is live twice, every live block was handed out by `malloc`, and every `free` so
far released a live block (`Heap.free` records the address it is given). It holds in
every reachable state (`heapInv_of_reachable`): a flush frees exactly the blocks of the
list it empties, each live, the loops link only blocks they have just allocated, and
`unregister` frees only the item it unlinks. So no list ever points at a freed block and
no block is freed twice (`listsOwnLiveBlocks`).

The converse, that every live block is on a list, fails: `Libteam.Proofs.Faults` shows a
leak. What `team_free` frees is exactly the port and option blocks
(`teamFree_freesRegistries`).

* `Heap.WF`, `Heap.Grows`: heaps the allocator builds, and the heap after a run that
  allocates and frees only blocks allocated since.
* `Heap.malloc_spec`, `createOption_heap`, `portItemsLoop_heap`, `optionItemsLoop_heap`,
  `flushPortList_heap`, `flushOptionList_heap`: one lemma per function of the model that
  touches the heap.
* `HeapInv.replace`: the one argument every step makes, a region of the blocks freed and
  replaced by new ones.
-/

set_option autoImplicit false

namespace Libteam

/-! ### The blocks of the lists -/

/-- The blocks an option node owns: the node, its name buffer and its data buffer. -/
def OptionNode.blocks (o : OptionNode) : List Nat := [o.addr, o.nameAddr, o.dataAddr]

/-- The port nodes. -/
def TeamHandle.portAddrs (th : TeamHandle) : List Nat := th.portList.map (·.addr)

/-- The option nodes and their buffers. -/
def TeamHandle.optionAddrs (th : TeamHandle) : List Nat := th.optionList.flatMap OptionNode.blocks

/-- The change-handler items. -/
def TeamHandle.handlerAddrs (th : TeamHandle) : List Nat := th.changeHandlerList.map (·.addr)

/-- The blocks the handle's lists reach. -/
def TeamHandle.reachableAddrs (th : TeamHandle) : List Nat :=
  th.portAddrs ++ th.optionAddrs ++ th.handlerAddrs

/-! ### Heaps the allocator builds -/

/-- A heap `malloc` and `free` can build: no block is live twice, every live block was
handed out below the counter, and every block freed so far was freed once, below the
counter, and is no longer live. -/
structure Heap.WF (h : Heap) : Prop where
  nodup : h.live.Nodup
  lt_next : ∀ a ∈ h.live, a < h.next
  freed_nodup : h.freed.Nodup
  freed_dead : ∀ a ∈ h.freed, a ∉ h.live ∧ a < h.next

/-- `h'` comes after `h` in a run that allocates, and frees only blocks allocated since
`h`: the blocks live in `h` still are, and every other live block is new. -/
structure Heap.Grows (h h' : Heap) : Prop where
  next_le : h.next ≤ h'.next
  keeps : ∀ a ∈ h.live, a ∈ h'.live
  fresh : ∀ a ∈ h'.live, a ∈ h.live ∨ h.next ≤ a

section Heap
variable {oom : Nat → Bool} {h h' h'' : Heap}

theorem Heap.Grows.refl (h : Heap) : h.Grows h := ⟨le_rfl, fun _ => id, fun _ ha => .inl ha⟩

theorem Heap.Grows.trans (h₁ : h.Grows h') (h₂ : h'.Grows h'') : h.Grows h'' where
  next_le := h₁.next_le.trans h₂.next_le
  keeps a ha := h₂.keeps a (h₁.keeps a ha)
  fresh a ha := (h₂.fresh a ha).elim (h₁.fresh a) fun hle => .inr (h₁.next_le.trans hle)

/-- One `malloc`: the counter moves on, and a success hands out the counter's old value,
which was neither live nor freed. -/
theorem Heap.malloc_spec {r : Option Nat} (hm : h.malloc oom = (r, h')) (hwf : h.WF) :
    h'.WF ∧ h.Grows h' ∧ h'.next = h.next + 1 ∧ ∀ a, r = some a → a = h.next ∧ a ∈ h'.live := by
  unfold Heap.malloc at hm
  split at hm <;> cases hm
  · exact ⟨⟨hwf.nodup, fun a ha => Nat.lt_succ_of_lt (hwf.lt_next a ha), hwf.freed_nodup,
      fun a ha => ⟨(hwf.freed_dead a ha).1, Nat.lt_succ_of_lt (hwf.freed_dead a ha).2⟩⟩,
      ⟨Nat.le_succ _, fun _ => id, fun _ ha => .inl ha⟩, rfl, fun _ ha => by cases ha⟩
  · refine ⟨⟨List.nodup_cons.mpr ⟨fun hmem => Nat.lt_irrefl _ (hwf.lt_next _ hmem), hwf.nodup⟩,
      fun a ha => ?_, hwf.freed_nodup, fun a ha => ?_⟩,
      ⟨Nat.le_succ _, fun _ ha => List.mem_cons_of_mem _ ha, fun a ha => ?_⟩,
      rfl, fun a ha => by cases ha; exact ⟨rfl, List.mem_cons_self _ _⟩⟩
    · rcases List.mem_cons.mp ha with rfl | ha
      · exact Nat.lt_succ_self _
      · exact Nat.lt_succ_of_lt (hwf.lt_next a ha)
    · -- a freed block is below the counter, so it is not the block handed out
      obtain ⟨hdead, hlt⟩ := hwf.freed_dead a ha
      exact ⟨List.not_mem_cons_of_ne_of_not_mem (Nat.ne_of_lt hlt) hdead, Nat.lt_succ_of_lt hlt⟩
    · rcases List.mem_cons.mp ha with rfl | ha
      · exact .inr le_rfl
      · exact .inl ha

theorem Heap.mem_free (hnd : h.live.Nodup) {a b : Nat} :
    b ∈ (h.free a).live ↔ b ≠ a ∧ b ∈ h.live :=
  hnd.mem_erase_iff

/-- Freeing a live block: it is recorded once, since a block freed before is not live. -/
theorem Heap.WF.free (hwf : h.WF) {a : Nat} (ha : a ∈ h.live) : (h.free a).WF where
  nodup := hwf.nodup.erase a
  lt_next b hb := hwf.lt_next b (List.mem_of_mem_erase hb)
  freed_nodup := List.nodup_cons.mpr ⟨fun hf => (hwf.freed_dead a hf).1 ha, hwf.freed_nodup⟩
  freed_dead b hb := by
    rcases List.mem_cons.mp hb with rfl | hb
    · exact ⟨fun hl => ((Heap.mem_free hwf.nodup).mp hl).1 rfl, hwf.lt_next b ha⟩
    · exact ⟨fun hl => (hwf.freed_dead b hb).1 (List.mem_of_mem_erase hl),
        (hwf.freed_dead b hb).2⟩

/-- Freeing a block allocated since `h` keeps what `h` had. -/
theorem Heap.Grows.free (hg : h.Grows h') (hwf : h.WF) {a : Nat} (ha : h.next ≤ a) :
    h.Grows (h'.free a) where
  next_le := hg.next_le
  keeps b hb := (List.mem_erase_of_ne (Nat.ne_of_lt ((hwf.lt_next b hb).trans_le ha))).mpr
    (hg.keeps b hb)
  fresh b hb := hg.fresh b (List.mem_of_mem_erase hb)

/-- Freeing each element's blocks in turn, when the blocks are distinct and live, leaves
live exactly the blocks of no element. -/
theorem foldl_free_spec {α : Type} (step : Heap → α → Heap) (blocks : α → List Nat)
    (hstep : ∀ h x, h.WF → (blocks x).Nodup → (∀ a ∈ blocks x, a ∈ h.live) →
      (step h x).WF ∧ ∀ a, a ∈ (step h x).live ↔ a ∈ h.live ∧ a ∉ blocks x)
    (l : List α) (hwf : h.WF) (hnd : (l.flatMap blocks).Nodup)
    (hlive : ∀ a ∈ l.flatMap blocks, a ∈ h.live) :
    (l.foldl step h).WF ∧ ∀ a, a ∈ (l.foldl step h).live ↔ a ∈ h.live ∧ a ∉ l.flatMap blocks := by
  induction l generalizing h with
  | nil => exact ⟨hwf, fun a => by simp⟩
  | cons x l ih =>
    rw [List.flatMap_cons] at hnd hlive
    obtain ⟨hndx, hndl, hdisj⟩ := List.nodup_append.mp hnd
    obtain ⟨hwf₁, hmem₁⟩ := hstep h x hwf hndx fun a ha => hlive a (List.mem_append_left _ ha)
    -- the later elements' blocks are still live once this element's are freed
    obtain ⟨hwf', hmem'⟩ := ih hwf₁ hndl fun a ha =>
      (hmem₁ a).mpr ⟨hlive a (List.mem_append_right _ ha), fun hx => hdisj hx ha⟩
    refine ⟨hwf', fun a => ?_⟩
    rw [List.foldl_cons, hmem', hmem₁, List.flatMap_cons, List.mem_append, not_or, and_assoc]

end Heap

/-! ### The functions that allocate and free -/

theorem flushPortList_heap {th : TeamHandle} (hwf : th.heap.WF) (hnd : th.portAddrs.Nodup)
    (hlive : ∀ a ∈ th.portAddrs, a ∈ th.heap.live) :
    (flushPortList th).heap.WF ∧
      ∀ a, a ∈ (flushPortList th).heap.live ↔ a ∈ th.heap.live ∧ a ∉ th.portAddrs := by
  have hblocks : th.portList.flatMap (fun p => [p.addr]) = th.portAddrs :=
    (List.map_eq_flatMap _ _).symm
  obtain ⟨hwf', hmem⟩ := foldl_free_spec (fun h p => h.free p.addr) (fun p => [p.addr])
    (fun h p hwf _ hl => ⟨hwf.free (hl _ (List.mem_singleton_self _)), fun a => by
      rw [Heap.mem_free hwf.nodup, List.mem_singleton]; exact and_comm⟩) th.portList hwf
    (hblocks ▸ hnd) (hblocks ▸ hlive)
  refine ⟨hwf', fun a => ?_⟩
  simp only [flushPortList, hmem, hblocks]

theorem flushOptionList_heap {th : TeamHandle} (hwf : th.heap.WF) (hnd : th.optionAddrs.Nodup)
    (hlive : ∀ a ∈ th.optionAddrs, a ∈ th.heap.live) :
    (flushOptionList th).heap.WF ∧
      ∀ a, a ∈ (flushOptionList th).heap.live ↔ a ∈ th.heap.live ∧ a ∉ th.optionAddrs := by
  refine foldl_free_spec _ OptionNode.blocks (fun h o hwf hnd hl => ?_) th.optionList hwf hnd hlive
  -- the name, then the data, then the option itself
  simp only [OptionNode.blocks, List.nodup_cons, List.mem_cons, List.mem_singleton,
    List.not_mem_nil, or_false, not_or, forall_eq_or_imp, forall_eq] at hnd hl
  obtain ⟨⟨hna, hda⟩, hnd', -⟩ := hnd
  have hn := hl.2.1
  have hd : o.dataAddr ∈ (h.free o.nameAddr).live := (Heap.mem_free hwf.nodup).mpr ⟨Ne.symm hnd', hl.2.2⟩
  have ha : o.addr ∈ ((h.free o.nameAddr).free o.dataAddr).live :=
    (Heap.mem_free (hwf.free hn).nodup).mpr ⟨hda, (Heap.mem_free hwf.nodup).mpr ⟨hna, hl.1⟩⟩
  refine ⟨((hwf.free hn).free hd).free ha, fun a => ?_⟩
  rw [Heap.mem_free ((hwf.free hn).free hd).nodup, Heap.mem_free (hwf.free hn).nodup,
    Heap.mem_free hwf.nodup]
  simp only [OptionNode.blocks, List.mem_cons, List.mem_singleton, List.not_mem_nil, or_false,
    not_or]
  exact ⟨fun ⟨ha, hd, hn, hl⟩ => ⟨hl, ha, hn, hd⟩, fun ⟨hl, ha, hn, hd⟩ => ⟨ha, hd, hn, hl⟩⟩

section Loops
variable {oom : Nat → Bool}

/-- `create_option` allocates three blocks, and on a failure frees the ones it got; what it
returns owns three distinct new live blocks. -/
theorem createOption_heap {name data : List UInt8} {optType : TeamOptionType} {changed : Bool}
    {heap heap' : Heap} {r : Option OptionNode}
    (h : createOption oom name optType data changed heap = (r, heap')) (hwf : heap.WF) :
    heap'.WF ∧ heap.Grows heap' ∧
      ∀ o, r = some o → o.blocks.Nodup ∧ ∀ a ∈ o.blocks, a ∈ heap'.live ∧ heap.next ≤ a := by
  unfold createOption at h
  split at h
  · rename_i heap₁ hm₁
    obtain ⟨hwf₁, hg₁, -, -⟩ := Heap.malloc_spec hm₁ hwf
    cases h
    exact ⟨hwf₁, hg₁, fun _ ho => by cases ho⟩
  rename_i addr heap₁ hm₁
  obtain ⟨hwf₁, hg₁, hn₁, ha₁⟩ := Heap.malloc_spec hm₁ hwf
  obtain ⟨rfl, hlive₁⟩ := ha₁ addr rfl
  split at h
  · rename_i heap₂ hm₂
    obtain ⟨hwf₂, hg₂, -, -⟩ := Heap.malloc_spec hm₂ hwf₁
    cases h
    exact ⟨hwf₂.free (hg₂.keeps _ hlive₁), (hg₁.trans hg₂).free hwf le_rfl,
      fun _ ho => by cases ho⟩
  rename_i nameAddr heap₂ hm₂
  obtain ⟨hwf₂, hg₂, hn₂, ha₂⟩ := Heap.malloc_spec hm₂ hwf₁
  obtain ⟨rfl, hlive₂⟩ := ha₂ nameAddr rfl
  split at h
  · rename_i heap₃ hm₃
    obtain ⟨hwf₃, hg₃, -, -⟩ := Heap.malloc_spec hm₃ hwf₂
    cases h
    have hname := hg₃.keeps _ hlive₂
    have haddr : heap.next ∈ (heap₃.free heap₁.next).live :=
      (Heap.mem_free hwf₃.nodup).mpr ⟨by omega, hg₃.keeps _ (hg₂.keeps _ hlive₁)⟩
    exact ⟨(hwf₃.free hname).free haddr,
      (((hg₁.trans hg₂).trans hg₃).free hwf (by omega)).free hwf le_rfl, fun _ ho => by cases ho⟩
  rename_i dataAddr heap₃ hm₃
  obtain ⟨hwf₃, hg₃, -, ha₃⟩ := Heap.malloc_spec hm₃ hwf₂
  obtain ⟨rfl, hlive₃⟩ := ha₃ dataAddr rfl
  cases h
  refine ⟨hwf₃, (hg₁.trans hg₂).trans hg₃, fun o ho => ?_⟩
  cases ho
  refine ⟨by simp [OptionNode.blocks]; omega, fun a ha => ?_⟩
  simp only [OptionNode.blocks, List.mem_cons, List.mem_singleton, List.not_mem_nil,
    or_false] at ha
  rcases ha with rfl | rfl | rfl
  · exact ⟨hg₃.keeps _ (hg₂.keeps _ hlive₁), le_rfl⟩
  · exact ⟨hg₃.keeps _ hlive₂, by omega⟩
  · exact ⟨hlive₃, by omega⟩

/-- The port loop only allocates; a loop that reaches the end of the batch linked new live
blocks only, one each. -/
theorem portItemsLoop_heap {items : List PortItem} {heap heap' : Heap}
    {tmp : List (Node TeamPort)} {r : Option (List (Node TeamPort))}
    (h : portItemsLoop oom items heap tmp = (r, heap')) (hwf : heap.WF) :
    heap'.WF ∧ heap.Grows heap' ∧ ∀ l, r = some l → ∃ new, l = tmp ++ new ∧
      (new.map (·.addr)).Nodup ∧ ∀ n ∈ new, n.addr ∈ heap'.live ∧ heap.next ≤ n.addr := by
  induction items generalizing heap tmp with
  | nil =>
    cases h
    exact ⟨hwf, .refl _, fun l hl => ⟨[], by cases hl; simp, .nil, by simp⟩⟩
  | cons it items ih =>
    rcases portItemsLoop_cons h with ⟨rfl, rfl | hm⟩ | ⟨p, addr, heap₁, -, hm, h⟩
    · exact ⟨hwf, .refl _, fun _ hl => by cases hl⟩
    · obtain ⟨hwf₁, hg₁, -, -⟩ := Heap.malloc_spec hm hwf
      exact ⟨hwf₁, hg₁, fun _ hl => by cases hl⟩
    obtain ⟨hwf₁, hg₁, hn₁, ha₁⟩ := Heap.malloc_spec hm hwf
    obtain ⟨rfl, hlive₁⟩ := ha₁ addr rfl
    obtain ⟨hwf', hg', hnew⟩ := ih h hwf₁
    refine ⟨hwf', hg₁.trans hg', fun l hl => ?_⟩
    obtain ⟨new, rfl, hnd, hnew⟩ := hnew l hl
    -- the new node comes before every block the rest of the loop allocates
    refine ⟨⟨heap.next, p⟩ :: new, by simp, ?_, ?_⟩
    · refine List.nodup_cons.mpr ⟨fun hmem => ?_, hnd⟩
      obtain ⟨n, hn, hna⟩ := List.mem_map.mp hmem
      have := (hnew n hn).2
      simp only at hna
      omega
    · refine List.forall_mem_cons.mpr ⟨⟨hg'.keeps _ hlive₁, le_rfl⟩, fun n hn => ?_⟩
      exact ⟨(hnew n hn).1, by have := (hnew n hn).2; omega⟩

/-- The option loop allocates, and frees only what it allocated; a loop that reaches the
end of the batch linked new live blocks only, three each. -/
theorem optionItemsLoop_heap {items : List OptionItem} {heap heap' : Heap}
    {tmp : List OptionNode} {r : Option (List OptionNode)}
    (h : optionItemsLoop oom items heap tmp = .ok (r, heap')) (hwf : heap.WF) :
    heap'.WF ∧ heap.Grows heap' ∧ ∀ l, r = some l → ∃ new, l = tmp ++ new ∧
      (new.flatMap OptionNode.blocks).Nodup ∧
      ∀ a ∈ new.flatMap OptionNode.blocks, a ∈ heap'.live ∧ heap.next ≤ a := by
  induction items generalizing heap tmp with
  | nil =>
    cases h
    exact ⟨hwf, .refl _, fun l hl => ⟨[], by cases hl; simp, .nil, by simp⟩⟩
  | cons it items ih =>
    rcases optionItemsLoop_cons it items heap tmp with ⟨-, he⟩ | ⟨_, he⟩ | ⟨-, -, he⟩ |
        ⟨o, node, heap₁, -, -, -, hcreate, he⟩ <;> rw [he] at h
    · cases h; exact ⟨hwf, .refl _, fun _ hl => by cases hl⟩
    · cases h
    · exact ih h hwf
    obtain ⟨hwf₁, hg₁, hnode⟩ := createOption_heap hcreate hwf
    obtain ⟨hblocks, hlive⟩ := hnode node rfl
    obtain ⟨hwf', hg', hnew⟩ := ih h hwf₁
    refine ⟨hwf', hg₁.trans hg', fun l hl => ?_⟩
    obtain ⟨new, rfl, hnd, hnew⟩ := hnew l hl
    refine ⟨node :: new, by simp, ?_, fun a ha => ?_⟩
    · -- the option's blocks come before every block the rest of the loop allocates
      rw [List.flatMap_cons, List.nodup_append]
      refine ⟨hblocks, hnd, fun a ha hb => ?_⟩
      have h₁ := hwf₁.lt_next a (hlive a ha).1
      have h₂ := (hnew a hb).2
      omega
    · rw [List.flatMap_cons, List.mem_append] at ha
      rcases ha with ha | ha
      · exact ⟨hg'.keeps a (hlive a ha).1, (hlive a ha).2⟩
      · exact ⟨(hnew a ha).1, hg₁.next_le.trans (hnew a ha).2⟩

end Loops

/-! ### The invariant -/

/-- The lists own their blocks: no block is reached twice, every block reached is live,
and the heap is one the allocator builds. -/
structure HeapInv (th : TeamHandle) : Prop where
  wf : th.heap.WF
  nodup : th.reachableAddrs.Nodup
  live : ∀ a ∈ th.reachableAddrs, a ∈ th.heap.live

theorem heapInv_teamAlloc : HeapInv teamAlloc where
  wf := ⟨List.nodup_nil, (fun _ ha => by cases ha), List.nodup_nil, (fun _ ha => by cases ha)⟩
  nodup := List.nodup_nil
  live _ ha := by cases ha

/-- The port nodes are distinct and live, in every heap that has grown from the handle's. -/
theorem HeapInv.ports {th : TeamHandle} (hi : HeapInv th) {h : Heap} (hg : th.heap.Grows h) :
    th.portAddrs.Nodup ∧ ∀ a ∈ th.portAddrs, a ∈ h.live :=
  ⟨(List.nodup_append.mp (List.nodup_append.mp hi.nodup).1).1, fun a ha =>
    hg.keeps a (hi.live a (List.mem_append_left _ (List.mem_append_left _ ha)))⟩

/-- The option blocks are distinct and live, in every heap that has grown from the
handle's. -/
theorem HeapInv.options {th : TeamHandle} (hi : HeapInv th) {h : Heap} (hg : th.heap.Grows h) :
    th.optionAddrs.Nodup ∧ ∀ a ∈ th.optionAddrs, a ∈ h.live :=
  ⟨(List.nodup_append.mp (List.nodup_append.mp hi.nodup).1).2.1, fun a ha =>
    hg.keeps a (hi.live a (List.mem_append_left _ (List.mem_append_right _ ha)))⟩

/-- The argument of every step: the blocks `old` of the lists are freed and replaced by
`new`, allocated since, and the blocks `rest` are kept. -/
theorem HeapInv.replace {th th' : TeamHandle} (hi : HeapInv th) (old new rest : List Nat)
    (hperm : th.reachableAddrs.Perm (old ++ rest)) (hperm' : th'.reachableAddrs.Perm (new ++ rest))
    {h₁ : Heap} (hg : th.heap.Grows h₁) (hwf' : th'.heap.WF) (hnew : new.Nodup)
    (hnewlive : ∀ a ∈ new, a ∈ h₁.live ∧ th.heap.next ≤ a)
    (hfree : ∀ a, a ∈ th'.heap.live ↔ a ∈ h₁.live ∧ a ∉ old) : HeapInv th' := by
  have hlt : ∀ a ∈ old ++ rest, a < th.heap.next :=
    fun a ha => hi.wf.lt_next a (hi.live a (hperm.mem_iff.mpr ha))
  have hnd := List.nodup_append.mp (hperm.nodup_iff.mp hi.nodup)
  refine ⟨hwf', hperm'.nodup_iff.mpr (List.nodup_append.mpr ⟨hnew, hnd.2.1, fun a ha hb => ?_⟩),
    fun a ha => (hfree a).mpr ?_⟩
  · have := hlt a (List.mem_append_right _ hb)
    have := (hnewlive a ha).2
    omega
  · rcases List.mem_append.mp (hperm'.mem_iff.mp ha) with ha | ha
    · refine ⟨(hnewlive a ha).1, fun hold => ?_⟩
      have := hlt a (List.mem_append_left _ hold)
      have := (hnewlive a ha).2
      omega
    · exact ⟨hg.keeps a (hi.live a (hperm.mem_iff.mpr (List.mem_append_right _ ha))),
        fun hold => hnd.2.2 hold ha⟩

/-- A step that keeps the lists and lets the heap grow. -/
theorem HeapInv.grow {th th' : TeamHandle} (hi : HeapInv th)
    (hreach : th'.reachableAddrs = th.reachableAddrs) (hg : th.heap.Grows th'.heap)
    (hwf' : th'.heap.WF) : HeapInv th' :=
  hi.replace [] [] th.reachableAddrs (.of_eq rfl) (.of_eq hreach) hg hwf' List.nodup_nil
    (fun _ ha => by cases ha) (fun a => (and_iff_left (List.not_mem_nil a)).symm)

theorem perm_append_middle (a b c : List Nat) : (a ++ b ++ c).Perm (b ++ (a ++ c)) :=
  (List.perm_append_comm.append_right c).trans (.of_eq (List.append_assoc _ _ _))

section Steps
variable {oom : Nat → Bool}

theorem heapInv_getPortListHandler {msg : NlMsg} {th : TeamHandle} (hi : HeapInv th) :
    HeapInv (getPortListHandler oom msg th) := by
  rcases getPortListHandler_cases oom msg th with h | ⟨_, _, -, hloop, h⟩ |
      ⟨_, tmp, heap, -, -, hloop, h⟩ <;> rw [h]
  · exact hi
  · obtain ⟨hwf₁, hg₁, -⟩ := portItemsLoop_heap hloop hi.wf
    exact hi.grow rfl hg₁ hwf₁
  · obtain ⟨hwf₁, hg₁, hnew⟩ := portItemsLoop_heap hloop hi.wf
    obtain ⟨new, rfl, hnd, hnewlive⟩ := hnew _ rfl
    obtain ⟨hwf', hfree⟩ := @flushPortList_heap { th with heap := heap } hwf₁
      (hi.ports hg₁).1 (hi.ports hg₁).2
    refine hi.replace th.portAddrs (tmp.map (·.addr)) (th.optionAddrs ++ th.handlerAddrs)
      (.of_eq (List.append_assoc _ _ _)) (.of_eq (List.append_assoc _ _ _)) hg₁ hwf' hnd
      (by simpa using hnewlive) hfree

theorem heapInv_getOptionsHandler {msg : NlMsg} {th th' : TeamHandle} (hi : HeapInv th)
    (hok : getOptionsHandler oom msg th = .ok th') : HeapInv th' := by
  rcases getOptionsHandler_cases hok with h | ⟨_, _, -, hloop, h⟩ |
      ⟨_, tmp, heap, -, -, hloop, h⟩ <;> rw [h]
  · exact hi
  · obtain ⟨hwf₁, hg₁, -⟩ := optionItemsLoop_heap hloop hi.wf
    exact hi.grow rfl hg₁ hwf₁
  · obtain ⟨hwf₁, hg₁, hnew⟩ := optionItemsLoop_heap hloop hi.wf
    obtain ⟨new, rfl, hnd, hnewlive⟩ := hnew _ rfl
    obtain ⟨hwf', hfree⟩ := @flushOptionList_heap { th with heap := heap } hwf₁
      (hi.options hg₁).1 (hi.options hg₁).2
    refine hi.replace th.optionAddrs (tmp.flatMap OptionNode.blocks)
      (th.portAddrs ++ th.handlerAddrs) (perm_append_middle _ _ _) (perm_append_middle _ _ _) hg₁
      hwf' hnd hnewlive hfree

theorem heapInv_register (handler : TeamChangeHandler) {th : TeamHandle} (hi : HeapInv th) :
    HeapInv (teamChangeHandlerRegister oom handler th).2 := by
  unfold teamChangeHandlerRegister
  split
  · exact hi
  split
  · rename_i heap hm
    obtain ⟨hwf₁, hg₁, -, -⟩ := Heap.malloc_spec hm hi.wf
    exact hi.grow rfl hg₁ hwf₁
  · rename_i addr heap hm
    obtain ⟨hwf₁, hg₁, -, ha⟩ := Heap.malloc_spec hm hi.wf
    obtain ⟨rfl, hlive⟩ := ha addr rfl
    refine hi.replace [] [th.heap.next] th.reachableAddrs (.of_eq rfl) ?_ hg₁ hwf₁
      (List.nodup_singleton _) (by simpa using hlive) (fun a => by simp)
    -- the new item goes at the end of the handler list
    simp only [TeamHandle.reachableAddrs, TeamHandle.handlerAddrs, listAdd_eq, List.map_append,
      List.map_cons, List.map_nil, ← List.append_assoc]
    exact List.perm_append_comm

theorem heapInv_unregister (handler : TeamChangeHandler) {th : TeamHandle} (hi : HeapInv th) :
    HeapInv (teamChangeHandlerUnregister handler th) := by
  unfold teamChangeHandlerUnregister
  split
  · exact hi
  rename_i it hit
  have hmem : it ∈ th.changeHandlerList := List.mem_of_find?_eq_some hit
  have hlive : it.addr ∈ th.heap.live :=
    hi.live _ (List.mem_append_right _ (List.mem_map_of_mem _ hmem))
  refine hi.replace [it.addr] []
    (th.portAddrs ++ th.optionAddrs ++ (th.changeHandlerList.erase it).map (·.addr))
    ((((List.perm_cons_erase hmem).map _).append_left _).trans List.perm_middle) (.of_eq rfl)
    (.refl _) (hi.wf.free hlive) List.nodup_nil (fun _ ha => by cases ha) (fun a => ?_)
  rw [Heap.mem_free hi.wf.nodup, List.mem_singleton]
  exact and_comm

/-- Every primitive step keeps `HeapInv`. -/
theorem heapInv_step {th th' : TeamHandle} (h : Step oom th th') (hi : HeapInv th) :
    HeapInv th' := by
  cases h with
  | decode cb msg h =>
    cases cb with
    | portList => cases h; exact heapInv_getPortListHandler hi
    | options => exact heapInv_getOptionsHandler hi h
  | dispatch c => exact hi.grow rfl (.refl _) hi.wf
  | register handler => exact heapInv_register handler hi
  | unregister handler => exact heapInv_unregister handler hi
  | transport h => rw [h]; exact hi.grow rfl (.refl _) hi.wf

theorem heapInv_of_reachable {th : TeamHandle} (h : Reachable oom th) : HeapInv th := by
  induction h with
  | refl => exact heapInv_teamAlloc
  | tail _ hstep ih => exact heapInv_step hstep ih

end Steps

/-! ### Over every run -/

/-- In every reachable state the lists own their blocks: no block is reached from two
places, every block reached is live and was never freed, no block is live twice, and no
block was freed twice. -/
theorem listsOwnLiveBlocks {oom : Nat → Bool} {th : TeamHandle} (h : Reachable oom th) :
    th.reachableAddrs.Nodup ∧
      (∀ a ∈ th.reachableAddrs, a ∈ th.heap.live ∧ a ∉ th.heap.freed) ∧
      th.heap.live.Nodup ∧ th.heap.freed.Nodup :=
  let hi := heapInv_of_reachable h
  ⟨hi.nodup, fun a ha => ⟨hi.live a ha, fun hf => (hi.wf.freed_dead a hf).1 (hi.live a ha)⟩,
    hi.wf.nodup, hi.wf.freed_nodup⟩

theorem listsOwnLiveBlocks_busyInit :
    ∃ th, runApi (fun _ => false) busyInitCalls teamAlloc = .ok th ∧
      Reachable (fun _ => false) th ∧
      th.reachableAddrs.Nodup ∧
      (∀ a ∈ th.reachableAddrs, a ∈ th.heap.live ∧ a ∉ th.heap.freed) ∧
      th.heap.live.Nodup ∧ th.heap.freed.Nodup :=
  let h := @reachable_runApi (fun _ => false) busyInitCalls _ rfl
  ⟨_, rfl, h, listsOwnLiveBlocks h⟩

/-- In every reachable state `team_free` frees exactly the port nodes and the option nodes
with their buffers, each once, and leaves every change-handler item live. -/
theorem teamFree_freesRegistries {oom : Nat → Bool} {th : TeamHandle} (h : Reachable oom th) :
    (∀ a, a ∈ (teamFree th).live ↔ a ∈ th.heap.live ∧ a ∉ th.portAddrs ∧ a ∉ th.optionAddrs) ∧
    (∀ a ∈ th.handlerAddrs, a ∈ (teamFree th).live) ∧ (teamFree th).freed.Nodup := by
  have hi := heapInv_of_reachable h
  obtain ⟨hwf₁, hmem₁⟩ := flushPortList_heap hi.wf (hi.ports (.refl _)).1 (hi.ports (.refl _)).2
  -- a handler item is neither a port block nor an option block, nor are the two others
  have hdisj := (List.nodup_append.mp hi.nodup).2.2
  have hdisj' := (List.nodup_append.mp (List.nodup_append.mp hi.nodup).1).2.2
  obtain ⟨hwf, hmem₂⟩ := @flushOptionList_heap (flushPortList th) hwf₁ (hi.options (.refl _)).1
    fun a ha => (hmem₁ a).mpr ⟨(hi.options (.refl _)).2 a ha, fun hp => hdisj' hp ha⟩
  have hmem : ∀ a, a ∈ (teamFree th).live ↔
      a ∈ th.heap.live ∧ a ∉ th.portAddrs ∧ a ∉ th.optionAddrs := fun a => by
    rw [teamFree, hmem₂, hmem₁, and_assoc]
    exact Iff.rfl
  exact ⟨hmem, fun a ha => (hmem a).mpr ⟨hi.live a (List.mem_append_right _ ha),
    fun hp => hdisj (List.mem_append_left _ hp) ha,
    fun ho => hdisj (List.mem_append_right _ ho) ha⟩, hwf.freed_nodup⟩

theorem teamFree_freesRegistries_busyInit :
    ∃ th, runApi (fun _ => false) busyInitCalls teamAlloc = .ok th ∧
      Reachable (fun _ => false) th ∧
      (∀ a, a ∈ (teamFree th).live ↔ a ∈ th.heap.live ∧ a ∉ th.portAddrs ∧ a ∉ th.optionAddrs) ∧
      (∀ a ∈ th.handlerAddrs, a ∈ (teamFree th).live) ∧ (teamFree th).freed.Nodup :=
  let h := @reachable_runApi (fun _ => false) busyInitCalls _ rfl
  ⟨_, rfl, h, teamFree_freesRegistries h⟩

end Libteam
