import Mathlib.Data.List.Basic

/-!
# `Libteam.Spec.Basic`: error numbers, change masks and the heap

The constants `libteam.c` takes from its headers, `nl2syserr` (the translation of libnl
error codes into errno values, `libteam.c:135-157`), and the heap of the library's own
allocations.

`team.h` and `list.h` are not under `src/`. The change-type mask, its two categories and
the option type tag are declared in `team.h`, so they are modelled from the spec, which
names the categories PORT_CHANGE and OPTION_CHANGE and the option types "32-bit unsigned
integer" and "string". The errno and libnl error values are the ones of Linux and libnl 3;
only their being distinct and positive matters below.

The heap keeps the addresses of the blocks, not their contents. `malloc` either fails or
returns a fresh address, and `free` takes the address out of the live set and records it,
so that a block freed twice shows as an address recorded twice. Which attempts fail is an
oracle `oom : Nat → Bool` over the attempt count, so that one run fixes every allocation
outcome in advance and a statement "for every outcome of the allocations" quantifies over
`oom`.
-/

set_option autoImplicit false

namespace Libteam

/-! ### errno values (`asm-generic/errno*.h`) -/

def EPERM : Int := 1
def ENOENT : Int := 2
def EINTR : Int := 4
def EAGAIN : Int := 11
def ENOMEM : Int := 12
def EACCES : Int := 13
def EBUSY : Int := 16
def EEXIST : Int := 17
def ENODEV : Int := 19
def EINVAL : Int := 22
def ERANGE : Int := 34
def ENOTSOCK : Int := 88
def EPROTONOSUPPORT : Int := 93
def EOPNOTSUPP : Int := 95
def EAFNOSUPPORT : Int := 97
def EADDRNOTAVAIL : Int := 99
def ENOBUFS : Int := 105

/-! ### libnl error codes (`netlink/errno.h`) -/

@[match_pattern] def NLE_INTR : Nat := 2
@[match_pattern] def NLE_BAD_SOCK : Nat := 3
@[match_pattern] def NLE_AGAIN : Nat := 4
@[match_pattern] def NLE_NOMEM : Nat := 5
@[match_pattern] def NLE_EXIST : Nat := 6
@[match_pattern] def NLE_INVAL : Nat := 7
@[match_pattern] def NLE_RANGE : Nat := 8
@[match_pattern] def NLE_OPNOTSUPP : Nat := 10
@[match_pattern] def NLE_AF_NOSUPPORT : Nat := 11
@[match_pattern] def NLE_OBJ_NOTFOUND : Nat := 12
@[match_pattern] def NLE_NOADDR : Nat := 19
@[match_pattern] def NLE_BUSY : Nat := 25
@[match_pattern] def NLE_PROTO_MISMATCH : Nat := 26
@[match_pattern] def NLE_NOACCESS : Nat := 27
@[match_pattern] def NLE_PERM : Nat := 28
@[match_pattern] def NLE_NODEV : Nat := 31

/-- `nl2syserr`: the errno value for a libnl error code, whatever its sign. Codes outside
the switch map to `EINVAL`. -/
def nl2syserr (nlError : Int) : Int :=
  match nlError.natAbs with
  | 0 => 0
  | NLE_EXIST => EEXIST
  | NLE_NOADDR => EADDRNOTAVAIL
  | NLE_OBJ_NOTFOUND => ENOENT
  | NLE_INTR => EINTR
  | NLE_AGAIN => EAGAIN
  | NLE_BAD_SOCK => ENOTSOCK
  | NLE_NOACCESS => EACCES
  | NLE_INVAL => EINVAL
  | NLE_NOMEM => ENOMEM
  | NLE_AF_NOSUPPORT => EAFNOSUPPORT
  | NLE_PROTO_MISMATCH => EPROTONOSUPPORT
  | NLE_OPNOTSUPP => EOPNOTSUPP
  | NLE_PERM => EPERM
  | NLE_BUSY => EBUSY
  | NLE_RANGE => ERANGE
  | NLE_NODEV => ENODEV
  | _ => EINVAL

/-! ### Definitions of `team.h` -/

/-- Modelled from the spec: `team_change_type_mask_t` (declared in `team.h`, which is not
under `src/`), the bitmask of change categories, as an unsigned 32-bit word. -/
abbrev TeamChangeTypeMask := BitVec 32

/-- Modelled from the spec: `TEAM_PORT_CHANGE`, the category of the port registry. -/
def TEAM_PORT_CHANGE : TeamChangeTypeMask := 0x1

/-- Modelled from the spec: `TEAM_OPTION_CHANGE`, the category of the option registry. -/
def TEAM_OPTION_CHANGE : TeamChangeTypeMask := 0x2

/-- Modelled from the spec: `TEAM_ANY_CHANGE`, both categories. -/
def TEAM_ANY_CHANGE : TeamChangeTypeMask := TEAM_PORT_CHANGE ||| TEAM_OPTION_CHANGE

/-- Modelled from the spec: `enum team_option_type` (`team.h`), the type tag of an option,
"32-bit unsigned integer, or UTF-8 string". -/
inductive TeamOptionType where
  /-- `TEAM_OPTION_TYPE_U32` -/
  | u32
  /-- `TEAM_OPTION_TYPE_STRING` -/
  | string
  deriving DecidableEq, Repr

/-! ### Calls that do not return -/

/-- Why a modelled call has no result. -/
inductive Stop where
  /-- undefined behaviour: the code dereferences a NULL pointer -/
  | nullDeref
  /-- a read past the end of a netlink attribute: a C string with no NUL in its payload or
  its padding, or a `__u32` of an empty payload. What the code reads there belongs to the
  next attribute or lies past the message, which the model does not hold -/
  | overRead
  /-- undefined behaviour: `FD_SET` of the descriptor -1 of a socket never connected -/
  | negativeFd
  /-- the call was still waiting for the environment when the outcomes given for it ran
  out: a loop that goes on receiving has not returned -/
  | unfinished
  deriving DecidableEq, Repr

/-- Results of the model are compared by `decide` on fixed inputs. -/
instance instDecidableEqExcept {ε α : Type} [DecidableEq ε] [DecidableEq α] :
    DecidableEq (Except ε α)
  | .ok a, .ok b => decidable_of_iff (a = b) ⟨congrArg _, Except.ok.inj⟩
  | .error a, .error b => decidable_of_iff (a = b) ⟨congrArg _, Except.error.inj⟩
  | .ok _, .error _ => isFalse Except.noConfusion
  | .error _, .ok _ => isFalse Except.noConfusion

/-! ### The heap -/

/-- The library's allocations. `next` counts the `malloc` attempts so far; `live` holds the
addresses allocated and not yet freed. `freed` is ghost state: every address passed to
`free`, the latest first. -/
structure Heap where
  next : Nat
  live : List Nat
  freed : List Nat
  deriving DecidableEq, Repr

/-- `malloc`. Attempt `next` fails when the oracle says so; otherwise it returns the fresh
address `next`. -/
def Heap.malloc (oom : Nat → Bool) (h : Heap) : Option Nat × Heap :=
  if oom h.next then (none, { h with next := h.next + 1 })
  else (some h.next, { h with next := h.next + 1, live := h.next :: h.live })

/-- `free`. -/
def Heap.free (a : Nat) (h : Heap) : Heap :=
  { h with live := h.live.erase a, freed := a :: h.freed }

/-- A heap block at `addr` holding `val`: a `struct team_port` or a
`struct change_handler_item`. The list links are the order of the list that holds it. -/
structure Node (α : Type) where
  addr : Nat
  val : α
  deriving DecidableEq, Repr

section Heap
variable (oom : Nat → Bool) (h : Heap)

@[simp] theorem Heap.malloc_of_oom (hf : oom h.next = true) :
    h.malloc oom = (none, { h with next := h.next + 1 }) := by
  simp [Heap.malloc, hf]

@[simp] theorem Heap.malloc_of_not_oom (hf : oom h.next = false) :
    h.malloc oom = (some h.next, { h with next := h.next + 1, live := h.next :: h.live }) := by
  simp [Heap.malloc, hf]

/-- Every attempt moves the counter, whether it fails or not. -/
@[simp] theorem Heap.malloc_next : (h.malloc oom).2.next = h.next + 1 := by
  unfold Heap.malloc; split <;> rfl

@[simp] theorem Heap.free_next (a : Nat) : (h.free a).next = h.next := rfl

@[simp] theorem Heap.free_live (a : Nat) : (h.free a).live = h.live.erase a := rfl

@[simp] theorem Heap.free_freed (a : Nat) : (h.free a).freed = a :: h.freed := rfl

end Heap

end Libteam
