import Libteam.Spec.Log

/-!
# `Libteam.Proofs.Log`: what `TEAM_LOG` sets the log priority to

The text of `TEAM_LOG` is stated in two shapes, and `team_alloc`'s priority is computed
for each, for every text of that shape:

* a number as `printf` writes it, between blanks and a tail that is empty or starts with
  a blank (`teamLog_readsNumber`): the number, saturated to a `long` and wrapped to an
  `int`, so the number itself whenever it fits in an `int`;
* a number followed at once by any byte other than a blank or a digit, or a text that
  starts with a blank and holds no digit (`teamLog_fallsToZero`): 0, which is `LOG_EMERG`,
  also for `" err"`, which is a name only without its blank.

The proofs go through `strtol10`'s subject sequence once (`strtol10_blanks_digits`) and
through `logPriorityName`'s tests by their first byte (`logPriorityName_of_head_lt`).
-/

set_option autoImplicit false

namespace Libteam

/-! ### The printed form of a number -/

/-- The decimal digits of `n`, most significant first, with no leading zero. -/
def decDigits (n : Nat) : List UInt8 :=
  if n < 10 then [(n + 48).toUInt8] else decDigits (n / 10) ++ [(n % 10 + 48).toUInt8]
termination_by n
decreasing_by omega

/-- The text `printf`'s `%ld` writes for `k`. -/
def printDecimal (k : Int) : List UInt8 :=
  if k < 0 then 45 :: decDigits k.natAbs else decDigits k.natAbs

theorem toNat_digit {d : Nat} (h : d < 10) : ((d + 48).toUInt8).toNat = d + 48 :=
  UInt8.toNat_ofNat_of_lt (by simp only [UInt8.size]; omega)

theorem cIsspace_of_cIsdigit {c : UInt8} (h : cIsdigit c = true) : cIsspace c = false := by
  simp only [cIsdigit, Bool.and_eq_true, decide_eq_true_eq] at h
  simp only [cIsspace, Bool.or_eq_false_iff, decide_eq_false_iff_not, Bool.and_eq_false_iff]
  omega

theorem cIsdigit_of_cIsspace {c : UInt8} (h : cIsspace c = true) : cIsdigit c = false :=
  Bool.eq_false_iff.mpr fun hd => by simp [cIsspace_of_cIsdigit hd] at h

theorem decimalValue_append_singleton (ds : List UInt8) (d : UInt8) :
    decimalValue (ds ++ [d]) = 10 * decimalValue ds + (d.toNat - 48) := by
  simp only [decimalValue, List.foldl_append, List.foldl_cons, List.foldl_nil]

theorem decDigits_ne_nil (n : Nat) : decDigits n ≠ [] := by
  rw [decDigits]
  split <;> simp

theorem cIsdigit_of_mem_decDigits (n : Nat) : ∀ c ∈ decDigits n, cIsdigit c = true := by
  induction n using decDigits.induct with
  | case1 n h =>
    rw [decDigits, if_pos h]
    simp [cIsdigit, toNat_digit h]
    omega
  | case2 n h ih =>
    have hd := toNat_digit (Nat.mod_lt n (by decide : 10 > 0))
    rw [decDigits, if_neg h]
    simp only [List.mem_append, List.mem_singleton]
    rintro c (hc | rfl)
    · exact ih c hc
    · simp only [cIsdigit, hd, Bool.and_eq_true, decide_eq_true_eq]
      omega

theorem decimalValue_decDigits (n : Nat) : decimalValue (decDigits n) = n := by
  induction n using decDigits.induct with
  | case1 n h => simp [decDigits, h, decimalValue, toNat_digit h]
  | case2 n h ih =>
    rw [decDigits, if_neg h, decimalValue_append_singleton, ih,
      toNat_digit (Nat.mod_lt n (by decide : 10 > 0))]
    omega

/-! ### `strtol` -/

theorem takeWhile_append_stop {p : UInt8 → Bool} {l r : List UInt8}
    (hl : ∀ c ∈ l, p c = true) (hr : ∀ c ∈ r.head?, p c = false) :
    (l ++ r).takeWhile p = l := by
  rw [List.takeWhile_append_of_pos hl]
  cases r with
  | nil => simp
  | cons c r => simp [List.takeWhile_cons, hr c rfl]

/-- `strtol` on blanks, an optional `-`, digits, and a tail that does not start with a
digit: the subject sequence ends at the tail. -/
theorem strtol10_blanks_digits {ws ds tail : List UInt8} (neg : Bool)
    (hws : ∀ c ∈ ws, cIsspace c = true) (hds : ∀ c ∈ ds, cIsdigit c = true) (hne : ds ≠ [])
    (htail : ∀ c ∈ tail.head?, cIsdigit c = false) :
    strtol10 (ws ++ ((if neg then [45] else []) ++ ds ++ tail)) =
      (strtolSaturate (if neg then -(decimalValue ds : Int) else decimalValue ds),
        ws.length + (if neg then 1 else 0) + ds.length) := by
  obtain ⟨d, ds', rfl⟩ := List.exists_cons_of_ne_nil hne
  have hd := hds d (List.mem_cons_self _ _)
  have hdigits : (ds' ++ tail).takeWhile cIsdigit = ds' :=
    takeWhile_append_stop (fun c hc => hds c (List.mem_cons_of_mem _ hc)) htail
  -- the blanks end where the sign or the first digit starts
  have hblanks : (ws ++ ((if neg then [45] else []) ++ (d :: ds') ++ tail)).takeWhile cIsspace
      = ws := by
    refine takeWhile_append_stop hws ?_
    cases neg
    · simp [cIsspace_of_cIsdigit hd]
    · simp only [if_true, List.singleton_append, List.cons_append, List.head?_cons,
        Option.mem_def, Option.some.injEq, forall_eq']
      decide
  have hd45 : d ≠ 45 := by rintro rfl; exact absurd hd (by decide)
  have hd43 : d ≠ 43 := by rintro rfl; exact absurd hd (by decide)
  simp only [strtol10, hblanks, List.drop_left]
  cases neg <;> simp [List.takeWhile_cons, hd, hdigits, hd45, hd43]

theorem strtol10_printDecimal {ws tail : List UInt8} (hws : ∀ c ∈ ws, cIsspace c = true)
    (htail : ∀ c ∈ tail.head?, cIsdigit c = false) (k : Int) :
    strtol10 (ws ++ printDecimal k ++ tail) =
      (strtolSaturate k, ws.length + (printDecimal k).length) := by
  by_cases hk : k < 0
  · have h := strtol10_blanks_digits true hws (cIsdigit_of_mem_decDigits k.natAbs)
      (decDigits_ne_nil _) htail
    simp only [if_true, List.singleton_append, List.cons_append, List.nil_append] at h
    rw [printDecimal, if_pos hk, List.append_assoc, List.cons_append, h, decimalValue_decDigits,
      Int.ofNat_natAbs_of_nonpos (Int.le_of_lt hk), Int.neg_neg, List.length_cons]
    congr 1
    omega
  · have h := strtol10_blanks_digits false hws (cIsdigit_of_mem_decDigits k.natAbs)
      (decDigits_ne_nil _) htail
    simp only [Bool.false_eq_true, if_false, List.nil_append, Nat.add_zero] at h
    rw [printDecimal, if_neg hk, List.append_assoc, h, decimalValue_decDigits,
      Int.natAbs_of_nonneg (by omega)]

/-- Without a digit `strtol` converts nothing: the value is 0 and `endptr` is `nptr`. -/
theorem strtol10_of_no_digit {s : List UInt8} (h : ∀ c ∈ s, cIsdigit c = false) :
    strtol10 s = (0, 0) := by
  have hnil : ∀ a b, ((s.drop a).drop b).takeWhile cIsdigit = [] := fun a b => by
    cases hs : (s.drop a).drop b with
    | nil => rfl
    | cons c r =>
      have hc : c ∈ s := List.mem_of_mem_drop (List.mem_of_mem_drop (hs ▸ List.mem_cons_self _ _))
      simp [List.takeWhile_cons, h c hc]
  simp only [strtol10, hnil, if_true]

/-! ### The names -/

theorem cstr_names :
    cstr "err" = [101, 114, 114] ∧ cstr "info" = [105, 110, 102, 111] ∧
      cstr "debug" = [100, 101, 98, 117, 103] := ⟨rfl, rfl, rfl⟩

/-- `logPriorityName` is 0 on a text whose first byte is below `a`: each `strncmp` looks
at the first byte first. -/
theorem logPriorityName_of_head_lt {s : List UInt8} (h : ∀ c ∈ s.head?, c.toNat < 97) :
    logPriorityName s = 0 := by
  cases s with
  | nil => rfl
  | cons c rest =>
    have hc : c ≠ 101 ∧ c ≠ 105 ∧ c ≠ 100 := by
      have := h c rfl
      refine ⟨?_, ?_, ?_⟩ <;> (rintro rfl; exact absurd this (by decide))
    simp [logPriorityName, cstr_names, hc]

/-- A number as `printf` writes it, after blanks, starts below `a`. -/
theorem head_lt_of_blanks_printDecimal {ws : List UInt8} (hws : ∀ c ∈ ws, cIsspace c = true)
    (k : Int) (tail : List UInt8) : ∀ c ∈ (ws ++ printDecimal k ++ tail).head?, c.toNat < 97 := by
  cases ws with
  | cons b ws =>
    have hb := hws b (List.mem_cons_self _ _)
    simp only [cIsspace, Bool.or_eq_true, decide_eq_true_eq, Bool.and_eq_true] at hb
    simp only [List.cons_append, List.head?_cons, Option.mem_def, Option.some.injEq]
    rintro c rfl
    omega
  | nil =>
    obtain ⟨d, ds, hds⟩ := List.exists_cons_of_ne_nil (decDigits_ne_nil k.natAbs)
    have hd := cIsdigit_of_mem_decDigits k.natAbs d (hds ▸ List.mem_cons_self _ _)
    simp only [cIsdigit, Bool.and_eq_true, decide_eq_true_eq] at hd
    unfold printDecimal
    split <;> simp only [hds, List.nil_append, List.cons_append, List.head?_cons,
      Option.mem_def, Option.some.injEq] <;> rintro c rfl
    · decide
    · omega

/-! ### `team_alloc`'s priority -/

/-- A number followed at once by a byte that is neither a blank nor a digit: `endptr`
stands at that byte, and no name matches a text that starts with a blank, a sign or a
digit. -/
theorem logPriority_number_then_junk {ws : List UInt8} (hws : ∀ c ∈ ws, cIsspace c = true)
    (k : Int) {c : UInt8} (hs : cIsspace c = false) (hd : cIsdigit c = false)
    (rest : List UInt8) : logPriority (ws ++ printDecimal k ++ c :: rest) = 0 := by
  have hstrtol := @strtol10_printDecimal ws (c :: rest) hws (fun b hb => by cases hb; exact hd) k
  have hdrop : (ws ++ printDecimal k ++ c :: rest).drop (ws.length + (printDecimal k).length) =
      c :: rest := List.drop_left' (by simp)
  simp only [logPriority, hstrtol, hdrop, hs, Bool.false_eq_true, if_false]
  exact logPriorityName_of_head_lt (head_lt_of_blanks_printDecimal hws k _)

/-- A text without a digit, empty or starting with a blank: `strtol` converts nothing
and `endptr` stands at the blank or at the NUL. -/
theorem logPriority_blank_no_digit {s : List UInt8} (hs : ∀ c ∈ s.head?, cIsspace c = true)
    (hd : ∀ c ∈ s, cIsdigit c = false) : logPriority s = 0 := by
  simp only [logPriority, strtol10_of_no_digit hd, List.drop_zero]
  cases s with
  | nil => rfl
  | cons c rest => simp [hs c rfl, intOfLong]

theorem intOfLong_strtolSaturate_of_int {k : Int} (h₁ : INT_MIN ≤ k) (h₂ : k ≤ INT_MAX) :
    intOfLong (strtolSaturate k) = k := by
  simp only [INT_MIN, INT_MAX] at h₁ h₂
  have hk : strtolSaturate k = k := by simp only [strtolSaturate, LONG_MIN, LONG_MAX]; omega
  rw [intOfLong, hk, Int.bmod_def]
  push_cast
  split <;> omega

/-- `TEAM_LOG` holding a number, with blanks before it and nothing or a blank after it,
sets the priority to the number saturated to a `long` and wrapped to an `int`: the number
itself whenever it fits in an `int`. -/
theorem teamLog_readsNumber {ws tail : List UInt8} (hws : ∀ c ∈ ws, cIsspace c = true)
    (htail : ∀ c ∈ tail.head?, cIsspace c = true) (k : Int) :
    teamAllocLogPriority (some (ws ++ printDecimal k ++ tail)) = intOfLong (strtolSaturate k) ∧
    (INT_MIN ≤ k → k ≤ INT_MAX →
      teamAllocLogPriority (some (ws ++ printDecimal k ++ tail)) = k) := by
  have hstrtol := strtol10_printDecimal hws (fun c hc => cIsdigit_of_cIsspace (htail c hc)) k
  have hvalue : teamAllocLogPriority (some (ws ++ printDecimal k ++ tail)) =
      intOfLong (strtolSaturate k) := by
    simp only [teamAllocLogPriority, logPriority, hstrtol]
    rw [List.drop_left' (by simp)]
    cases tail with
    | nil => rfl
    | cons c r => simp [htail c rfl]
  exact ⟨hvalue, fun h₁ h₂ => hvalue.trans (intOfLong_strtolSaturate_of_int h₁ h₂)⟩

theorem teamLog_readsNumber_blankMinusFive :
    (∀ c ∈ ([32] : List UInt8), cIsspace c = true) ∧
    (∀ c ∈ ([10] : List UInt8).head?, cIsspace c = true) ∧
    (teamAllocLogPriority (some ([32] ++ printDecimal (-5) ++ [10])) =
        intOfLong (strtolSaturate (-5)) ∧
      (INT_MIN ≤ -5 → -5 ≤ INT_MAX →
        teamAllocLogPriority (some ([32] ++ printDecimal (-5) ++ [10])) = -5)) :=
  ⟨by decide, by decide, @teamLog_readsNumber [32] [10] (by decide) (by decide) (-5)⟩

/-- `TEAM_LOG` sets the priority to 0 (`LOG_EMERG`) when a number is followed at once by a
byte other than a blank or a digit, and when a text without a digit is empty or starts
with a blank, as `" err"` does. -/
theorem teamLog_fallsToZero :
    (∀ (ws : List UInt8), (∀ c ∈ ws, cIsspace c = true) → ∀ (k : Int) (c : UInt8),
      cIsspace c = false → cIsdigit c = false → ∀ rest,
      teamAllocLogPriority (some (ws ++ printDecimal k ++ c :: rest)) = 0) ∧
    (∀ s : List UInt8, (∀ c ∈ s.head?, cIsspace c = true) → (∀ c ∈ s, cIsdigit c = false) →
      teamAllocLogPriority (some s) = 0) :=
  ⟨fun _ hws k _ hs hd rest => logPriority_number_then_junk hws k hs hd rest,
    fun _ hs hd => logPriority_blank_no_digit hs hd⟩

theorem teamLog_fallsToZero_sevenX_blankErr :
    teamAllocLogPriority (some ([] ++ printDecimal 7 ++ [120])) = 0 ∧
    teamAllocLogPriority (some [32, 101, 114, 114]) = 0 :=
  ⟨teamLog_fallsToZero.1 [] (by decide) 7 120 (by decide) (by decide) [],
    teamLog_fallsToZero.2 _ (by decide) (by decide)⟩

end Libteam
