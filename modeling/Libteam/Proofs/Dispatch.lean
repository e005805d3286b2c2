import Libteam.Proofs.Decode

/-!
# `Libteam.Proofs.Dispatch`: the law of a dispatch

`InstalledSince trace b` is the history notion of a pending change: a snapshot of category
`b` was installed after the last dispatch whose mask contained `b`. The pending mask of
the handle is a summary of the trace (`PendingInv`): its bit `b` is set exactly when
`InstalledSince trace b` holds. Both handlers and `check_call_change_handlers` keep that.

Under `PendingInv` and distinct handler pointers, `checkCallChangeHandlers_settleLaw`
proves the law of a dispatch (`SettleLaw`): each registered handler is called at most
once, exactly when its mask meets the settled categories that were installed, and with
that intersection; the settled categories stop being pending and the others keep their
status.
-/

set_option autoImplicit false

namespace Libteam

/-- The categories an event of the trace installs. -/
def ChangeEvent.installs : ChangeEvent → TeamChangeTypeMask
  | .installPorts _ => TEAM_PORT_CHANGE
  | .installOptions _ => TEAM_OPTION_CHANGE
  | .check _ _ => 0

/-- An event of the trace settles category bit `b`: it is a dispatch whose mask holds `b`. -/
def ChangeEvent.Settles : ChangeEvent → Nat → Prop
  | .check callTypeMask _, b => callTypeMask.getLsbD b = true
  | _, _ => False

/-- A snapshot of category bit `b` was installed since the last dispatch that settled `b`. -/
def InstalledSince (trace : List ChangeEvent) (b : Nat) : Prop :=
  ∃ pre e post, trace = pre ++ e :: post ∧ e.installs.getLsbD b = true ∧
    ∀ e' ∈ post, ¬ e'.Settles b

/-- The history at the end of a trace: the last event installs `b`, or `b` was pending
before it and it does not settle `b`. -/
theorem installedSince_append_singleton (trace : List ChangeEvent) (e : ChangeEvent)
    (b : Nat) :
    InstalledSince (trace ++ [e]) b ↔
      e.installs.getLsbD b = true ∨ (InstalledSince trace b ∧ ¬ e.Settles b) := by
  constructor
  · rintro ⟨pre, e₀, post, htrace, hins, hpost⟩
    rcases List.eq_nil_or_concat post with rfl | ⟨post', x, rfl⟩
    · obtain ⟨-, h⟩ := List.append_inj' htrace rfl
      simp only [List.cons.injEq, and_true] at h
      exact .inl (h ▸ hins)
    · rw [List.concat_eq_append, ← List.cons_append, ← List.append_assoc] at htrace
      obtain ⟨rfl, h⟩ := List.append_inj' htrace rfl
      simp only [List.cons.injEq, and_true] at h
      subst h
      exact .inr ⟨⟨pre, e₀, post', rfl, hins, fun e' he' => hpost e' (by simp [he'])⟩,
        hpost e (by simp)⟩
  · rintro (hins | ⟨⟨pre, e₀, post, rfl, hins, hpost⟩, hnot⟩)
    · exact ⟨trace, e, [], rfl, hins, by simp⟩
    · refine ⟨pre, e₀, post ++ [e], by simp, hins, fun e' he' => ?_⟩
      rcases List.mem_append.mp he' with he' | he'
      · exact hpost e' he'
      · cases List.mem_singleton.mp he'
        exact hnot

theorem not_installedSince_nil (b : Nat) : ¬ InstalledSince [] b := by
  rintro ⟨pre, e, post, h, -⟩
  simp at h

/-- The pending mask summarises the trace. -/
def PendingInv (th : TeamHandle) : Prop :=
  ∀ b, th.pendingTypeMask.getLsbD b = true ↔ InstalledSince th.trace b

/-- Handler items hold distinct handler pointers. -/
def HandlersNodup (th : TeamHandle) : Prop :=
  (th.changeHandlerList.map (·.val.ptr)).Nodup

theorem pendingInv_teamAlloc : PendingInv teamAlloc := by
  intro b
  simp [teamAlloc, not_installedSince_nil]

/-- Installing a snapshot keeps the pending mask a summary of the trace. -/
theorem pendingInv_install {th th' : TeamHandle} (e : ChangeEvent) (hinv : PendingInv th)
    (hpending : th'.pendingTypeMask = th.pendingTypeMask ||| e.installs)
    (htrace : th'.trace = th.trace ++ [e]) (hsettle : ∀ b, ¬ e.Settles b) :
    PendingInv th' := by
  intro b
  rw [hpending, htrace, installedSince_append_singleton, BitVec.getLsbD_or, Bool.or_eq_true,
    hinv b]
  simp only [hsettle, not_false_eq_true, and_true]
  exact Or.comm

/-! ### One dispatch -/

/-- The law of one dispatch with mask `callTypeMask`, where `P` holds the categories
installed since they were last settled. -/
structure SettleLaw (hs : List TeamChangeHandler) (callTypeMask : TeamChangeTypeMask)
    (P : Nat → Prop) (calls : List (TeamChangeHandler × TeamChangeTypeMask))
    (pending pending' : TeamChangeTypeMask) : Prop where
  /-- only registered handlers are called -/
  registered : ∀ c ∈ calls, c.1 ∈ hs
  /-- each registered handler is called at most once -/
  atMostOnce : ∀ h ∈ hs, (calls.filter (·.1.ptr == h.ptr)).length ≤ 1
  /-- a handler is called exactly when `S = type_mask ∩ callTypeMask ∩ P` is not empty -/
  calledIff : ∀ h ∈ hs, (∃ m, (h, m) ∈ calls) ↔
    ∃ b, h.typeMask.getLsbD b = true ∧ callTypeMask.getLsbD b = true ∧ P b
  /-- and it receives `S` -/
  receives : ∀ h m, (h, m) ∈ calls → ∀ b, m.getLsbD b = true ↔
    (h.typeMask.getLsbD b = true ∧ callTypeMask.getLsbD b = true ∧ P b)
  /-- no settled category stays pending -/
  settled : ∀ b, callTypeMask.getLsbD b = true → pending'.getLsbD b = false
  /-- every other category keeps its status -/
  kept : ∀ b, callTypeMask.getLsbD b = false → pending'.getLsbD b = pending.getLsbD b

theorem exists_getLsbD_of_ne_zero {w : Nat} {x : BitVec w} (h : x ≠ 0) :
    ∃ b, x.getLsbD b = true := by
  by_contra hno
  refine h (BitVec.eq_of_getLsbD_eq fun i => ?_)
  simpa using fun hi => hno ⟨i, hi⟩

theorem ne_zero_of_getLsbD {w : Nat} {x : BitVec w} {b : Nat} (h : x.getLsbD b = true) :
    x ≠ 0 := by
  rintro rfl
  simp at h

/-- Clearing `c` from `p` leaves the bits outside `c` as they were. -/
theorem getLsbD_and_not_of_not {p c : TeamChangeTypeMask} {b : Nat}
    (hb : c.getLsbD b = false) : (p &&& ~~~c).getLsbD b = p.getLsbD b := by
  by_cases hlt : b < 32
  · simp [hb, hlt]
  · simp [BitVec.getLsbD_ge _ _ (Nat.le_of_not_lt hlt)]

theorem handlerCall_eq_some {toCall : TeamChangeTypeMask} {h : TeamChangeHandler}
    {c : TeamChangeHandler × TeamChangeTypeMask} :
    handlerCall toCall h = some c ↔ c = (h, h.typeMask &&& toCall) ∧ h.typeMask &&& toCall ≠ 0 := by
  by_cases h0 : h.typeMask &&& toCall = 0
  · simp [handlerCall, h0]
  · simp only [handlerCall, ne_eq, h0, not_false_eq_true, if_true, Option.some.injEq]
    exact ⟨fun hc => ⟨hc.symm, trivial⟩, fun hc => hc.1.symm⟩

/-- The calls of a dispatch go to handlers of the list, in list order. -/
theorem map_ptr_filterMap_handlerCall_sublist (toCall : TeamChangeTypeMask)
    (l : List TeamChangeHandler) :
    ((l.filterMap (handlerCall toCall)).map (·.1.ptr)).Sublist (l.map (·.ptr)) := by
  induction l with
  | nil => simp
  | cons h l ih =>
    rw [List.filterMap_cons, List.map_cons]
    cases hc : handlerCall toCall h with
    | none => exact ih.cons _
    | some c =>
      obtain ⟨rfl, -⟩ := handlerCall_eq_some.mp hc
      exact ih.cons₂ _

theorem length_filter_ptr_le_one {calls : List (TeamChangeHandler × TeamChangeTypeMask)}
    (hnd : (calls.map (·.1.ptr)).Nodup) (p : Nat) :
    (calls.filter (·.1.ptr == p)).length ≤ 1 := by
  have := List.nodup_iff_count_le_one.mp hnd p
  rwa [List.count, List.countP_map, List.countP_eq_length_filter] at this

theorem mem_filterMap_handlerCall {toCall : TeamChangeTypeMask} {l : List TeamChangeHandler}
    {h : TeamChangeHandler} {m : TeamChangeTypeMask} :
    (h, m) ∈ l.filterMap (handlerCall toCall) ↔ h ∈ l ∧ m = h.typeMask &&& toCall ∧ m ≠ 0 := by
  simp only [List.mem_filterMap, handlerCall_eq_some, Prod.mk.injEq]
  constructor
  · rintro ⟨h, hh, ⟨rfl, rfl⟩, hm⟩
    exact ⟨hh, rfl, hm⟩
  · rintro ⟨hh, rfl, hm⟩
    exact ⟨h, hh, ⟨rfl, rfl⟩, hm⟩

/-- The dispatch law, for a handle whose pending mask summarises its trace and whose
handler pointers are distinct; the dispatch keeps the summary. -/
theorem checkCallChangeHandlers_settleLaw (callTypeMask : TeamChangeTypeMask)
    (th : TeamHandle) (hinv : PendingInv th) (hnd : HandlersNodup th) :
    let th' := checkCallChangeHandlers callTypeMask th
    ∃ calls, th'.trace = th.trace ++ [.check callTypeMask calls] ∧
      SettleLaw (th.changeHandlerList.map (·.val)) callTypeMask (InstalledSince th.trace)
        calls th.pendingTypeMask th'.pendingTypeMask ∧
      PendingInv th' := by
  refine ⟨_, rfl, ⟨fun c hc => ?_, fun h _ => ?_, fun h hh => ?_, fun h m hc b => ?_,
    fun b hb => ?_, fun b hb => ?_⟩, fun b => ?_⟩
  · exact (mem_filterMap_handlerCall.mp (show (c.1, c.2) ∈ _ from hc)).1
  · exact length_filter_ptr_le_one
      ((map_ptr_filterMap_handlerCall_sublist _ _).nodup (by simpa [HandlersNodup] using hnd)) _
  · simp only [mem_filterMap_handlerCall, hh, true_and, exists_eq_left]
    constructor
    · intro hm
      obtain ⟨b, hb⟩ := exists_getLsbD_of_ne_zero hm
      simp only [BitVec.getLsbD_and, Bool.and_eq_true] at hb
      exact ⟨b, hb.1, hb.2.2, (hinv b).mp hb.2.1⟩
    · rintro ⟨b, hty, hc, hP⟩
      refine ne_zero_of_getLsbD (b := b) ?_
      simp [hty, hc, (hinv b).mpr hP]
  · obtain ⟨-, rfl, -⟩ := mem_filterMap_handlerCall.mp hc
    simp only [BitVec.getLsbD_and, Bool.and_eq_true, hinv b]
    tauto
  · simp [checkCallChangeHandlers, hb]
  · exact getLsbD_and_not_of_not hb
  · simp only [checkCallChangeHandlers, installedSince_append_singleton, ChangeEvent.installs,
      ChangeEvent.Settles, BitVec.getLsbD_zero, Bool.false_eq_true, false_or]
    cases hc : callTypeMask.getLsbD b
    · rw [getLsbD_and_not_of_not hc, hinv b]
      simp
    · simp [hc]

end Libteam
