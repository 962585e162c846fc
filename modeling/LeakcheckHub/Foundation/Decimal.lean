import LeakcheckHub.Foundation.PyText
import Mathlib.Data.Nat.Digits.Lemmas

/-!
# Decimal text

`str` of an integer, and `int` of that text.
-/

namespace LeakcheckHub.Foundation

namespace PyStr

def digit (d : ℕ) : CodePoint := Fin.ofNat _ (48 + d)

def ofNat (n : ℕ) : PyStr :=
  if n = 0 then [digit 0] else ((Nat.digits 10 n).reverse).map digit

/-- `str(n)`. -/
def ofInt : ℤ → PyStr
  | .ofNat n => ofNat n
  | .negSucc n => 45 :: ofNat (n + 1)

variable {n d : ℕ} {decimal : CodePoint → Option ℕ} {s : PyStr}

theorem digit_val (h : d < 10) : (digit d).val = 48 + d := by
  show (48 + d) % 0x110000 = 48 + d
  exact Nat.mod_eq_of_lt (by omega)

/-- Every text of a number is one of digits. -/
theorem ofNat_eq_map (n : ℕ) : ∃ ds : List ℕ, ds ≠ [] ∧ (∀ d ∈ ds, d < 10) ∧
    ofNat n = ds.map digit ∧ ds.foldl (fun m d => m * 10 + d) 0 = n ∧
    ds.length ≤ max 1 (Nat.digits 10 n).length := by
  by_cases hn : n = 0
  · subst hn
    refine ⟨[0], List.cons_ne_nil _ _, ?_, rfl, rfl, le_max_left _ _⟩
    intro d hd
    rw [List.mem_singleton.mp hd]
    decide
  · refine ⟨(Nat.digits 10 n).reverse, ?_, ?_, if_neg hn, ?_, ?_⟩
    · rw [Ne, List.reverse_eq_nil_iff, Nat.digits_eq_nil_iff_eq_zero]
      exact hn
    · intro d hd
      exact Nat.digits_lt_base (by decide) (List.mem_reverse.mp hd)
    · -- the first digit of the text is the last of `digits`
      rw [List.foldl_reverse]
      have hvalue : Nat.ofDigits 10 (Nat.digits 10 n) = n :=
        Nat.ofDigits_digits 10 n
      rw [Nat.ofDigits_eq_foldr] at hvalue
      refine Eq.trans ?_ hvalue
      congr 1
      funext d m
      show m * 10 + d = d + 10 * m
      omega
    · rw [List.length_reverse]
      exact le_max_right _ _

theorem foldl_digits (ds : List ℕ) (h : ∀ d ∈ ds, d < 10) (m : ℕ) :
    (ds.map digit).foldl (fun m c => m * 10 + (c.val - 48)) m =
      ds.foldl (fun m d => m * 10 + d) m := by
  induction ds generalizing m with
  | nil => rfl
  | cons d ds ih =>
      have hd : (digit d).val - 48 = d := by
        rw [digit_val (h d List.mem_cons_self)]
        omega
      rw [List.map_cons, List.foldl_cons, List.foldl_cons, hd]
      exact ih (fun e he => h e (List.mem_cons_of_mem _ he)) _

/-- Numbers with one text are one number. -/
theorem ofNat_injective : Function.Injective ofNat := by
  intro m n h
  obtain ⟨ds, -, hds, htext, hvalue, -⟩ := ofNat_eq_map m
  obtain ⟨ds', -, hds', htext', hvalue', -⟩ := ofNat_eq_map n
  rw [← hvalue, ← hvalue', ← foldl_digits ds hds, ← foldl_digits ds' hds',
    ← htext, ← htext', h]

theorem isAsciiDigit_digit (h : d < 10) : isAsciiDigit (digit d) = true := by
  unfold isAsciiDigit
  rw [digit_val h]
  simp only [Bool.and_eq_true, decide_eq_true_eq]
  omega

theorem decimalValue_digits {ds : List ℕ} (hne : ds ≠ []) (h : ∀ d ∈ ds, d < 10)
    (hlen : ds.length ≤ 4300) :
    decimalValue (ds.map digit) = some (ds.foldl (fun m d => m * 10 + d) 0) := by
  have hunderscore : (Fin.ofNat _ 95 : CodePoint) ∉ ds.map digit := by
    intro hmem
    obtain ⟨d, hd, heq⟩ := List.mem_map.mp hmem
    have hval := congrArg Fin.val heq
    rw [digit_val (h d hd)] at hval
    have hlt := h d hd
    have h95 : (Fin.ofNat 0x110000 95).val = 95 := rfl
    omega
  have hdigits : (ds.map digit).all isAsciiDigit = true := by
    rw [List.all_map, List.all_eq_true]
    intro d hd
    exact isAsciiDigit_digit (h d hd)
  have hnonempty : (ds.map digit).isEmpty = false := by
    rw [List.isEmpty_eq_false_iff, Ne, List.map_eq_nil_iff]
    exact hne
  unfold decimalValue
  rw [List.splitOn_eq_singleton hunderscore]
  simp [hdigits, hnonempty, hlen, foldl_digits ds h]

/-- **`int(str(n)) = n`** up to the interpreter's limit on digits. -/
theorem toInt_ofNat (hlen : (Nat.digits 10 n).length ≤ 4300) :
    toInt decimal (ofNat n) = some n := by
  obtain ⟨ds, hne, hds, htext, hvalue, hmax⟩ := ofNat_eq_map n
  have hlen' : ds.length ≤ 4300 := hmax.trans (max_le (by decide) hlen)
  have hmapped : (ds.map digit).map (intChar decimal) = ds.map digit := by
    rw [List.map_map]
    apply List.map_congr_left
    intro d hd
    have hlt := hds d hd
    show intChar decimal (digit d) = digit d
    unfold intChar
    rw [if_pos (by rw [digit_val hlt]; omega)]
  have hspace : ∀ c ∈ ds.map digit, isAsciiSpace c = false := by
    intro c hc
    obtain ⟨d, hd, rfl⟩ := List.mem_map.mp hc
    have hlt := hds d hd
    unfold isAsciiSpace
    rw [digit_val hlt]
    simp only [Bool.or_eq_false_iff, Bool.and_eq_false_iff, decide_eq_false_iff_not,
      beq_eq_false_iff_ne]
    omega
  have hdrop : ∀ t : PyStr, (∀ c ∈ t, isAsciiSpace c = false) →
      t.dropWhile isAsciiSpace = t := by
    intro t ht
    cases t with
    | nil => rfl
    | cons c t =>
        rw [List.dropWhile_cons, ht c List.mem_cons_self]
        rfl
  unfold toInt
  rw [htext]
  simp only [hmapped, hdrop _ hspace]
  rw [hdrop (ds.map digit).reverse fun c hc => hspace c (List.mem_reverse.mp hc),
    List.reverse_reverse]
  cases ds with
  | nil => exact absurd rfl hne
  | cons d rest =>
      have hd := hds d List.mem_cons_self
      have hval := digit_val hd
      simp only [List.map_cons]
      rw [if_neg (by omega), if_neg (by omega)]
      rw [← List.map_cons, decimalValue_digits hne hds hlen', hvalue]
      rfl

theorem toInt_ofInt {k : ℤ} (h₀ : 0 ≤ k) (h : k < 10 ^ 9) :
    toInt decimal (ofInt k) = some k := by
  obtain ⟨n, rfl⟩ := Int.eq_ofNat_of_zero_le h₀
  show toInt decimal (ofNat n) = _
  apply toInt_ofNat
  have hn : n < 10 ^ 9 := by exact_mod_cast h
  have hdigits := (Nat.digits_length_le_iff (by decide : 1 < 10) n).mpr hn
  exact hdigits.trans (by decide)

end PyStr

end LeakcheckHub.Foundation
