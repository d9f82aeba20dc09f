import SkalarkiFcu.RoundTrip

/-!
# What the windows cannot tell apart

The encoders take any `int`: digits in front of those of the window are dropped, and a negative
number has negative digits, with characters of their own. Two values are shown alike exactly if
their truncated remainders are the same; the vertical speed keeps its sign and its hundreds. Of
the barometers this is said of hPa only, since in inHg the source multiplies floats.

## Architecture

- **Texts**: the texts as signed numerals, `altText_eq_iff` and its companions
- **Encoders**: `EncodersCollide`, and `encoders_eq_iff`
-/

namespace SkalarkiFcu

open LittleEndian Reactive Truncation Numeral

/-! ## Texts -/

/-- The characters of the signed digits are different. -/
theorem digitChar_injOn (d e : ℤ) (hd : |d| < (10 : ℕ)) (he : |e| < (10 : ℕ))
    (h : digitChar d = digitChar e) : d = e := by
  have hall : ∀ i < 19, ∀ j < 19,
      digitChar ((i : ℕ) - 9 : ℤ) = digitChar ((j : ℕ) - 9 : ℤ) → i = j := by decide
  obtain ⟨hd₁, hd₂⟩ := abs_lt.mp hd
  obtain ⟨he₁, he₂⟩ := abs_lt.mp he
  -- the digits from -9 to 9, counted from 0
  obtain ⟨i, hi⟩ := Int.eq_ofNat_of_zero_le (show 0 ≤ d + 9 by omega)
  obtain ⟨j, hj⟩ := Int.eq_ofNat_of_zero_le (show 0 ≤ e + 9 by omega)
  have hi' : d = (i : ℤ) - 9 := by omega
  have hj' : e = (j : ℤ) - 9 := by omega
  rw [hi', hj'] at h
  have hij := hall i (by omega) j (by omega) h
  omega

theorem writeInt_digitChar_eq_iff (k : ℕ) (m n : ℤ) :
    writeInt 10 digitChar k m = writeInt 10 digitChar k n ↔ m.tmod (10 ^ k) = n.tmod (10 ^ k) :=
  writeInt_eq_iff (by norm_num) digitChar_injOn k m n

/-! The numerals of three, four and five digits, digit by digit. -/

section Digits

variable (n : ℤ)

theorem tdiv_mul_ten (a : ℕ) : (n.tdiv a).tdiv 10 = n.tdiv (a * 10 : ℕ) := tdiv_tdiv n a 10

theorem threeDigitsText_eq_writeInt : threeDigitsText false n = writeInt 10 digitChar 3 n := by
  have h10 := tdiv_mul_ten n 10
  push_cast at h10
  simp [threeDigitsText, writeInt, h10]

theorem hPaText_eq_writeInt : hPaText n = writeInt 10 digitChar 4 n := by
  have h10 := tdiv_mul_ten n 10
  have h100 := tdiv_mul_ten n 100
  push_cast at h10 h100
  simp [hPaText, writeInt, h10, h100]

theorem altText_eq_writeInt : altText n = writeInt 10 digitChar 5 n := by
  have h10 := tdiv_mul_ten n 10
  have h100 := tdiv_mul_ten n 100
  have h1000 := tdiv_mul_ten n 1000
  push_cast at h10 h100 h1000
  simp [altText, writeInt, h10, h100, h1000]

end Digits

section Collisions

variable (m n : ℤ)

theorem altText_eq_iff : altText m = altText n ↔ m.tmod 100000 = n.tmod 100000 := by
  rw [altText_eq_writeInt, altText_eq_writeInt, writeInt_digitChar_eq_iff]
  norm_num

/-- Dashes are dashes. -/
theorem threeDigitsText_eq_iff (managed : Bool) :
    threeDigitsText managed m = threeDigitsText managed n ↔
      managed = true ∨ m.tmod 1000 = n.tmod 1000 := by
  cases managed with
  | true => exact iff_of_true rfl (.inl rfl)
  | false =>
    rw [threeDigitsText_eq_writeInt, threeDigitsText_eq_writeInt, writeInt_digitChar_eq_iff]
    norm_num

theorem hPaText_eq_iff : hPaText m = hPaText n ↔ m.tmod 10000 = n.tmod 10000 := by
  rw [hPaText_eq_writeInt, hPaText_eq_writeInt, writeInt_digitChar_eq_iff]
  norm_num

/-- The vertical speed has a sign of its own, and no digits below the hundreds. -/
theorem vsText_eq_iff (managed : Bool) : vsText managed m = vsText managed n ↔
    managed = true ∨
      ((m < 0 ↔ n < 0) ∧ m.natAbs / 100 % 100 = n.natAbs / 100 % 100) := by
  cases managed with
  | true => exact iff_of_true rfl (.inl rfl)
  | false =>
    have hsign : ((if m < 0 then 0x2d else 0x2b : UInt8) = if n < 0 then 0x2d else 0x2b) ↔
        (m < 0 ↔ n < 0) := by
      by_cases hm : m < 0 <;> by_cases hn : n < 0 <;> simp [hm, hn]
    have hdigits : write 10 decimalDigit 2 (m.natAbs / 100) =
        write 10 decimalDigit 2 (n.natAbs / 100) ↔
          m.natAbs / 100 % 100 = n.natAbs / 100 % 100 := by
      constructor
      · intro h
        -- the digits can be read back
        have hread := congrArg (readFrom 10 digitValue 0) h
        rw [readFrom_write (by norm_num) digitValue_decimalDigit,
          readFrom_write (by norm_num) digitValue_decimalDigit] at hread
        simpa using hread
      · intro h
        simp only [write, List.nil_append, List.cons_append]
        rw [show m.natAbs / 100 / 10 % 10 = n.natAbs / 100 / 10 % 10 by omega,
          show m.natAbs / 100 % 10 = n.natAbs / 100 % 10 by omega]
    rw [vsText_eq, vsText_eq, List.cons_eq_cons, List.append_left_inj, hsign, hdigits]
    simp

end Collisions

/-! ## Encoders -/

/-- A window has different frames for different texts. -/
theorem Window.push_frame_inj (w : Window) {text text' : Bytes} (h : text.length < 256)
    (h' : text'.length < 256) :
    [Effect.push (w.frame text)] = [.push (w.frame text')] ↔ text = text' := by
  refine ⟨fun heq => ?_, fun heq => by rw [heq]⟩
  have htext := congrArg Effect.text (List.singleton_inj.mp heq)
  rw [text_frame w h, text_frame w h'] at htext
  exact Option.some.inj htext

theorem BaroBuffers.For.updateBaro_eq_iff {bufs : BaroBuffers} {w : Window} (h : bufs.For w)
    {b : Baro} (hmode : b.baroMode ≠ 0) (x y : ℚ) :
    updateBaro bufs b x = updateBaro bufs b y ↔ (trunc x).tmod 10000 = (trunc y).tmod 10000 := by
  rw [h.hPa b x hmode, h.hPa b y hmode, Window.push_frame_inj, hPaText_eq_iff] <;>
    simp [hPaText]

/-- A value of an `int` of the source. -/
def IsInt (n : ℤ) : Prop := -2 ^ 31 ≤ n ∧ n < 2 ^ 31

/-- Whether an encoder pushes the same frame for two values of its argument. -/
structure EncodersCollide : Prop where
  alt : ∀ m n : ℤ, IsInt m → IsInt n →
    (updateAlt m = updateAlt n ↔ m.tmod 100000 = n.tmod 100000)
  spd : ∀ (w : SpdWindow) (m n : ℤ), IsInt m → IsInt n →
    (updateSpd w m = updateSpd w n ↔ w.spdManaged = true ∨ m.tmod 1000 = n.tmod 1000)
  hdg : ∀ (w : HdgWindow) (m n : ℤ), IsInt m → IsInt n →
    (updateHdg w m = updateHdg w n ↔ w.hdgManaged = true ∨ m.tmod 1000 = n.tmod 1000)
  /-- A negative number is negated, and the least `int` has no negative. -/
  vs : ∀ (w : VsWindow) (m n : ℤ), |m| < 2 ^ 31 → |n| < 2 ^ 31 →
    (updateVs w m = updateVs w n ↔ w.vsManaged = true ∨
      ((m < 0 ↔ n < 0) ∧ m.natAbs / 100 % 100 = n.natAbs / 100 % 100))
  baroCpt_hPa : ∀ (b : Baro) (x y : ℚ), b.baroMode ≠ 0 → IsInt (trunc x) → IsInt (trunc y) →
    (updateBaroCpt b x = updateBaroCpt b y ↔ (trunc x).tmod 10000 = (trunc y).tmod 10000)
  baroFo_hPa : ∀ (b : Baro) (x y : ℚ), b.baroMode ≠ 0 → IsInt (trunc x) → IsInt (trunc y) →
    (updateBaroFo b x = updateBaroFo b y ↔ (trunc x).tmod 10000 = (trunc y).tmod 10000)

/-- **Collisions**: two values are shown alike exactly if their truncated remainders are the same,
or if the window shows dashes; the vertical speed keeps its sign and its hundreds. -/
theorem encoders_eq_iff : EncodersCollide where
  alt m n _ _ := by
    rw [updateAlt_eq, updateAlt_eq, Window.push_frame_inj, altText_eq_iff] <;> simp [altText]
  spd w m n _ _ := by
    rw [updateSpd_eq, updateSpd_eq, Window.push_frame_inj, threeDigitsText_eq_iff] <;>
      cases w.spdManaged <;> simp [threeDigitsText]
  hdg w m n _ _ := by
    rw [updateHdg_eq, updateHdg_eq, Window.push_frame_inj, threeDigitsText_eq_iff] <;>
      cases w.hdgManaged <;> simp [threeDigitsText]
  vs w m n _ _ := by
    rw [updateVs_eq, updateVs_eq, Window.push_frame_inj, vsText_eq_iff] <;>
      cases w.vsManaged <;> simp [vsText]
  baroCpt_hPa _ x y hmode _ _ := sendbufBaroLeft_for.updateBaro_eq_iff hmode x y
  baroFo_hPa _ x y hmode _ _ := sendBufBaroRight_for.updateBaro_eq_iff hmode x y

end SkalarkiFcu
