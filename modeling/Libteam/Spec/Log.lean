import Libteam.Spec.Options

/-!
# `Libteam.Spec.Log`: the log priority from `TEAM_LOG`

`team_alloc` starts every handle at `LOG_ERR` and, when the environment variable
`TEAM_LOG` is set, replaces it by `log_priority` of its text (`libteam.c:969-974`).
`log_priority` (`libteam.c:113-128`) reads the text as a decimal number with `strtol`; when
the number is not followed by the end of the string or a blank, it falls back to the names
`err`, `info` and `debug`, compared with `strncmp` over their own length, and to 0.

`strtol` and the character classes come from the C library, so they are modelled from
C11 7.22.1.4 and 7.4.1, in the "C" locale: the blanks are space, `\t`, `\n`, `\v`, `\f`
and `\r`; with no digit there is no conversion, the value is 0 and `endptr` is the string
itself (before any blank it skipped); a value outside the range of `long` gives `LONG_MIN`
or `LONG_MAX`. `long` is 64 bits wide and `int` 32 (LP64), and `int prio = strtol (...)`
converts the `long` modulo 2^32, as GCC does.

A C string is given by its bytes before the terminating NUL.
-/

set_option autoImplicit false

namespace Libteam

/-! ### `<syslog.h>` priorities -/

def LOG_ERR : Int := 3
def LOG_INFO : Int := 6
def LOG_DEBUG : Int := 7

/-! ### The C library -/

/-- `isspace` in the "C" locale. -/
def cIsspace (c : UInt8) : Bool := c.toNat = 32 || (9 ≤ c.toNat && c.toNat ≤ 13)

/-- `isdigit`. -/
def cIsdigit (c : UInt8) : Bool := 48 ≤ c.toNat && c.toNat ≤ 57

/-! ### `<limits.h>` -/

def INT_MIN : Int := -2147483648
def INT_MAX : Int := 2147483647
def LONG_MIN : Int := -9223372036854775808
def LONG_MAX : Int := 9223372036854775807

/-- What `strtol` returns for a subject sequence of exact value `v`: `v`, saturated at
`LONG_MIN` and `LONG_MAX` (where it sets `errno` to `ERANGE`). -/
def strtolSaturate (v : Int) : Int := max LONG_MIN (min v LONG_MAX)

/-- The conversion of a `long` to a 32-bit `int`, modulo 2^32. -/
def intOfLong (v : Int) : Int := v.bmod 4294967296

/-- The value of a run of decimal digits, most significant first. -/
def decimalValue (digits : List UInt8) : Nat :=
  digits.foldl (fun acc d => 10 * acc + (d.toNat - 48)) 0

/-- `strtol (nptr, &endptr, 10)`: the value, and how far `endptr` is past `nptr`. The
subject sequence is the blanks, one optional sign and the longest run of digits after
them. -/
def strtol10 (nptr : List UInt8) : Int × Nat :=
  let blanks := (nptr.takeWhile cIsspace).length
  let subject := nptr.drop blanks
  let neg := subject.head? == some 45
  let signLen := if neg || subject.head? == some 43 then 1 else 0
  let digits := (subject.drop signLen).takeWhile cIsdigit
  if digits = [] then (0, 0)
  else
    let v : Int := if neg then -(decimalValue digits : Int) else decimalValue digits
    (strtolSaturate v, blanks + signLen + digits.length)

/-! ### `log_priority` -/

/-- The three `strncmp` tests of `log_priority`, in order, and its final `return 0`. -/
def logPriorityName (priority : List UInt8) : Int :=
  if priority.take 3 = cstr "err" then LOG_ERR
  else if priority.take 4 = cstr "info" then LOG_INFO
  else if priority.take 5 = cstr "debug" then LOG_DEBUG
  else 0

/-- `log_priority`: the number `strtol` read when `endptr` stands at the NUL or at a
blank, the names otherwise. -/
def logPriority (priority : List UInt8) : Int :=
  let prio := intOfLong (strtol10 priority).1
  match priority.drop (strtol10 priority).2 with
  | [] => prio
  | c :: _ => if cIsspace c then prio else logPriorityName priority

/-- The log priority `team_alloc` gives a new handle, from the text of `TEAM_LOG` when it
is set. -/
def teamAllocLogPriority (teamLog : Option (List UInt8)) : Int :=
  match teamLog with
  | none => LOG_ERR
  | some env => logPriority env

end Libteam
