import Mathlib.Algebra.Order.Group.Unbundled.Int
import Mathlib.Algebra.Order.Ring.Nat
import Mathlib.Tactic.Ring

/-!
# Positional numerals

A numeral of fixed width has the last digits of a number, the most significant one first. It is
written and read over any alphabet: the writer has a character for each digit, and the reader
may refuse a character. What is read back is the number modulo the power of the base.

Where division truncates, a negative number has negative digits, and a numeral tells apart what
has a different truncated remainder.
-/

namespace Numeral

variable {α : Type*}

/-- The last `k` digits of `n`. -/
def write (base : ℕ) (char : ℕ → α) : ℕ → ℕ → List α
  | 0, _ => []
  | k + 1, n => write base char k (n / base) ++ [char (n % base)]

/-- Read a numeral behind a number that has been read already. -/
def readFrom (base : ℕ) (digit : α → Option ℕ) (acc : ℕ) : List α → Option ℕ
  | [] => some acc
  | c :: cs => (digit c).bind fun d => readFrom base digit (acc * base + d) cs

/-- Read a numeral. -/
def read (base : ℕ) (digit : α → Option ℕ) (cs : List α) : Option ℕ := readFrom base digit 0 cs

variable {base : ℕ} {char : ℕ → α} {digit : α → Option ℕ}

@[simp] theorem length_write (k n : ℕ) : (write base char k n).length = k := by
  induction k generalizing n with
  | zero => rfl
  | succ k ih => rw [write, List.length_append, ih, List.length_singleton]

theorem readFrom_append (acc : ℕ) (cs ds : List α) :
    readFrom base digit acc (cs ++ ds) =
      (readFrom base digit acc cs).bind fun n => readFrom base digit n ds := by
  induction cs generalizing acc with
  | nil => rfl
  | cons c cs ih =>
    cases h : digit c with
    | none => simp [readFrom, h]
    | some d => simp [readFrom, h, ih]

/-- **Round trip**: a numeral reads as the number modulo the power of the base. -/
theorem readFrom_write (hbase : 0 < base) (hdigit : ∀ d < base, digit (char d) = some d)
    (acc k n : ℕ) :
    readFrom base digit acc (write base char k n) = some (acc * base ^ k + n % base ^ k) := by
  induction k generalizing n with
  | zero => simp [write, readFrom, Nat.mod_one]
  | succ k ih =>
    have hlast : digit (char (n % base)) = some (n % base) := hdigit _ (Nat.mod_lt n hbase)
    -- the digits in front are those of `n / base`, and the last one is `n % base`
    have hsplit : n % base ^ (k + 1) = n / base % base ^ k * base + n % base := by
      rw [pow_succ', Nat.mod_mul]
      ring
    rw [write, readFrom_append, ih, Option.bind_some, readFrom, hlast, Option.bind_some, readFrom,
      hsplit]
    congr 1
    ring

/-- A number that fits its width is read back. -/
theorem read_write (hdigit : ∀ d < base, digit (char d) = some d) {k n : ℕ}
    (h : n < base ^ k) (hbase : 0 < base) : read base digit (write base char k n) = some n := by
  rw [read, readFrom_write hbase hdigit, zero_mul, zero_add, Nat.mod_eq_of_lt h]

/-! ## Signed digits -/

/-- The last `k` digits of an integer, by truncating division. -/
def writeInt (base : ℕ) (char : ℤ → α) : ℕ → ℤ → List α
  | 0, _ => []
  | k + 1, n => writeInt base char k (n.tdiv base) ++ [char (n.tmod base)]

theorem tdiv_tdiv (n : ℤ) (a b : ℕ) : (n.tdiv a).tdiv b = n.tdiv (a * b : ℕ) := by
  have hnat : ∀ m : ℕ, ((m : ℤ).tdiv a).tdiv b = (m : ℤ).tdiv (a * b : ℕ) := by
    intro m
    rw [← Int.ofNat_tdiv, ← Int.ofNat_tdiv, ← Int.ofNat_tdiv, Nat.div_div_eq_div_mul]
  rcases Int.natAbs_eq n with h | h
  · rw [h]
    exact hnat _
  · rw [h, Int.neg_tdiv, Int.neg_tdiv, Int.neg_tdiv, hnat]

/-- The digits in front of the last one. -/
theorem tmod_mul_tdiv (n : ℤ) (a b : ℕ) : (n.tmod (a * b)).tdiv a = (n.tdiv a).tmod b := by
  have hnat : ∀ m : ℕ, ((m : ℤ).tmod (a * b)).tdiv a = ((m : ℤ).tdiv a).tmod b := by
    intro m
    have h := congrArg (Nat.cast : ℕ → ℤ) (Nat.mod_mul_right_div_self m a b)
    rwa [Int.ofNat_tdiv, Int.ofNat_tmod, Int.ofNat_tmod, Int.ofNat_tdiv, Nat.cast_mul] at h
  rcases Int.natAbs_eq n with h | h
  · rw [h]
    exact hnat _
  · rw [h, Int.neg_tmod, Int.neg_tdiv, Int.neg_tdiv, Int.neg_tmod, hnat]

/-- **Collisions**: two integers have the same numeral if and only if their truncated remainders
by the power of the base are the same. -/
theorem writeInt_eq_iff {char : ℤ → α} (hbase : 0 < base)
    (hchar : ∀ d e : ℤ, |d| < base → |e| < base → char d = char e → d = e) (k : ℕ) (m n : ℤ) :
    writeInt base char k m = writeInt base char k n ↔
      m.tmod (base ^ k) = n.tmod (base ^ k) := by
  induction k generalizing m n with
  | zero => simp [writeInt]
  | succ k ih =>
    have hpos : (0 : ℤ) < base := Int.natCast_pos.mpr hbase
    have hdigit : ∀ x : ℤ, |x.tmod base| < base := fun x =>
      abs_lt.mpr ⟨Int.lt_tmod_of_pos x hpos, Int.tmod_lt_of_pos x hpos⟩
    -- the remainder keeps the last digit and those in front of it
    have hlast : ∀ x : ℤ, (x.tmod (base ^ (k + 1))).tmod base = x.tmod base := fun x =>
      Int.tmod_tmod_of_dvd x (dvd_pow_self _ k.succ_ne_zero)
    have hfront : ∀ x : ℤ, (x.tmod (base ^ (k + 1))).tdiv base =
        (x.tdiv base).tmod (base ^ k) := by
      intro x
      have h := tmod_mul_tdiv x base (base ^ k)
      rwa [Nat.cast_pow, ← pow_succ'] at h
    rw [writeInt, writeInt]
    constructor
    · intro h
      obtain ⟨hfronts, hlasts⟩ := List.append_inj' h rfl
      have hmod := hchar _ _ (hdigit m) (hdigit n) (List.singleton_inj.mp hlasts)
      rw [← Int.tdiv_mul_add_tmod (m.tmod (base ^ (k + 1))) base,
        ← Int.tdiv_mul_add_tmod (n.tmod (base ^ (k + 1))) base, hfront, hfront, hlast, hlast,
        (ih _ _).mp hfronts, hmod]
    · intro h
      have hfronts : (m.tdiv base).tmod (base ^ k) = (n.tdiv base).tmod (base ^ k) := by
        rw [← hfront, h, hfront]
      have hmod : m.tmod base = n.tmod base := by
        rw [← hlast, h, hlast]
      rw [(ih _ _).mpr hfronts, hmod]

end Numeral
