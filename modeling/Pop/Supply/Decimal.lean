import Mathlib.Data.List.Basic
import Mathlib.Tactic.IntervalCases

/-!
# Decimal labels (`fmt.Sprintf("%d", _)` and `strconv.ParseUint(_, 10, 64)`)

Store IDs and sizes are kept in content records as decimal strings and read back by
`GetStoreID` with `strconv.ParseUint(sid, 10, 64)`. `parseUint` follows that loop: a
syntax error for the empty string or a byte that is not a digit, a range error as soon
as the value would pass `2^64 - 1` (the `cutoff` test before the multiplication, the
`maxVal` test after the addition). `parseUint_sprintfD` is the round trip over the
whole 64-bit range.
-/

namespace Pop.Supply

/-- The character of a decimal digit. -/
def digitChar (d : Nat) : Char := Char.ofNat (48 + d)

/-- `fmt`'s integer loop: while the value is at least ten, emit its last digit and divide
by ten, then emit the last one; least significant digit first, within `fuel` steps. -/
def decDigits : Nat → Nat → List Nat
  | 0, _ => []
  | fuel + 1, u => if u < 10 then [u] else u % 10 :: decDigits fuel (u / 10)

/-- `fmt.Sprintf("%d", n)` for an unsigned `n`: its digits, most significant first. -/
def sprintfD (n : Nat) : String := ⟨(decDigits (n + 1) n).reverse.map digitChar⟩

/-- `strconv.ErrSyntax` and `strconv.ErrRange`. -/
inductive NumErr where
  | errSyntax
  | errRange
  deriving DecidableEq, Repr

/-- `*strconv.NumError`: the function, the input and the cause. -/
structure NumError where
  func : String
  num : String
  err : NumErr
  deriving DecidableEq, Repr

/-- `maxUint64/10 + 1`, the smallest value whose tenfold overflows. -/
def cutoff : Nat := (2 ^ 64 - 1) / 10 + 1

/-- `1<<64 - 1` for `bitSize = 64`. -/
def maxVal : Nat := 2 ^ 64 - 1

/-- The digit loop of `ParseUint` in base 10 over the bytes of the input. -/
def parseDigits (n : Nat) : List Char → Except NumErr Nat
  | [] => .ok n
  | c :: cs =>
    if c.isDigit then
      if n ≥ cutoff then .error .errRange
      else if n * 10 + (c.toNat - 48) > maxVal then .error .errRange
      else parseDigits (n * 10 + (c.toNat - 48)) cs
    else .error .errSyntax

/-- `strconv.ParseUint(s, 10, 64)`. -/
def parseUint (s : String) : Except NumError Nat :=
  if s = "" then .error ⟨"ParseUint", s, .errSyntax⟩
  else (parseDigits 0 s.data).mapError fun e => ⟨"ParseUint", s, e⟩

/-- The value of a digit list, most significant first. -/
def digitsValue (acc : Nat) (ds : List Nat) : Nat := ds.foldl (fun a d => a * 10 + d) acc

theorem digitChar_spec {d : Nat} (h : d < 10) :
    (digitChar d).isDigit = true ∧ (digitChar d).toNat - 48 = d := by
  interval_cases d <;> decide

theorem le_digitsValue (acc : Nat) (ds : List Nat) : acc ≤ digitsValue acc ds := by
  induction ds generalizing acc with
  | nil => exact le_rfl
  | cons d ds ih => exact le_trans (by omega) (ih (acc * 10 + d))

/-- The loop reads digit characters without error while the value stays in range. -/
theorem parseDigits_map (acc : Nat) (ds : List Nat) (hd : ∀ d ∈ ds, d < 10)
    (hv : digitsValue acc ds ≤ maxVal) :
    parseDigits acc (ds.map digitChar) = .ok (digitsValue acc ds) := by
  induction ds generalizing acc with
  | nil => rfl
  | cons d ds ih =>
    obtain ⟨hdig, hval⟩ := digitChar_spec (hd d (List.mem_cons_self _ _))
    have hle : acc * 10 + d ≤ maxVal := le_trans (le_digitsValue _ ds) hv
    have hcut : ¬acc ≥ cutoff := by simp only [cutoff, maxVal] at hle ⊢; omega
    simp only [List.map_cons, parseDigits, hdig, hval, hcut, if_true, if_false, Nat.not_lt.2 hle]
    exact ih _ (fun x hx => hd x (List.mem_cons_of_mem _ hx)) hv

theorem digitsValue_snoc (acc : Nat) (ds : List Nat) (d : Nat) :
    digitsValue acc (ds ++ [d]) = digitsValue acc ds * 10 + d := by
  simp [digitsValue, List.foldl_append]

/-- The digits of `u` read back to `u`, are digits, and are not empty. -/
theorem decDigits_spec : ∀ (fuel u : Nat), u < fuel →
    digitsValue 0 (decDigits fuel u).reverse = u ∧ (∀ d ∈ decDigits fuel u, d < 10) ∧
      decDigits fuel u ≠ []
  | 0, _, h => absurd h (Nat.not_lt_zero _)
  | fuel + 1, u, h => by
    by_cases hu : u < 10
    · simp [decDigits, hu, digitsValue]
    · obtain ⟨hv, hd, -⟩ := decDigits_spec fuel (u / 10) (by omega)
      simp only [decDigits, hu, if_false, List.reverse_cons, digitsValue_snoc, hv]
      refine ⟨Nat.div_add_mod' u 10, fun d hd' => ?_, List.cons_ne_nil _ _⟩
      rcases List.mem_cons.1 hd' with rfl | hd'
      · exact Nat.mod_lt _ (by decide)
      · exact hd d hd'

/-- Decimal formatting and `ParseUint(_, 10, 64)` are inverse on `[0, 2^64)`. -/
theorem parseUint_sprintfD (n : Nat) (h : n < 2 ^ 64) : parseUint (sprintfD n) = .ok n := by
  obtain ⟨hv, hd, hne⟩ := decDigits_spec (n + 1) n (Nat.lt_succ_self n)
  have hs : sprintfD n ≠ "" := by
    simpa [sprintfD, String.ext_iff] using hne
  have hmax : digitsValue 0 (decDigits (n + 1) n).reverse ≤ maxVal := by
    rw [hv]; simp only [maxVal]; omega
  rw [parseUint, if_neg hs]
  change Except.mapError _ (parseDigits 0 ((decDigits (n + 1) n).reverse.map digitChar)) = _
  rw [parseDigits_map 0 _ (fun d h => hd d (List.mem_reverse.1 h)) hmax, hv]
  rfl

end Pop.Supply
