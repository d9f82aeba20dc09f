import SkalarkiFcu.Library.Numeral
import SkalarkiFcu.Baro

/-!
# Round trips of the display encoders

A reader of the panel: it takes a pushed frame apart and decodes its text. Every encoder is
followed by its reader over the whole range of the window, so that the digits, their places, the
length of the text and the length of the frame agree for every value.

## Architecture

- **Readers**: `readNumber`, `readInHg` and `readVs` for the three kinds of texts
- **Texts**: the texts of the encoders are numerals of fixed width
- **Encoders**: `ReadsBack`, and the round trip of all encoders
-/

namespace SkalarkiFcu

open LittleEndian Truncation Numeral

/-! ## Readers -/

/-- The value of an ASCII digit. -/
def digitValue (b : UInt8) : Option ℕ :=
  if 0x30 ≤ b.toNat ∧ b.toNat ≤ 0x39 then some (b.toNat - 0x30) else none

/-- A text of decimal digits, as a number. -/
def readNumber (text : Bytes) : Option ℕ := read 10 digitValue text

/-- A text `dd.dd`, as a setting in inHg. -/
def readInHg : Bytes → Option ℚ
  | [a, b, 0x2e, c, d] => (readNumber [a, b, c, d]).map fun n : ℕ => (n : ℚ) / 100
  | _ => none

/-- A text `sddoo`: whether the sign is a minus, and the hundreds. -/
def readVs : Bytes → Option (Bool × ℕ)
  | [0x2b, a, b, 0x6f, 0x6f] => (readNumber [a, b]).map fun n => (false, n)
  | [0x2d, a, b, 0x6f, 0x6f] => (readNumber [a, b]).map fun n => (true, n)
  | _ => none

theorem digitValue_decimalDigit (d : ℕ) (h : d < 10) : digitValue (decimalDigit d) = some d := by
  have hall : ∀ d < 10, digitValue (decimalDigit d) = some d := by decide
  exact hall d h

/-- A number that fits its width is read back. -/
theorem readNumber_write {k n : ℕ} (h : n < 10 ^ k) :
    readNumber (write 10 decimalDigit k n) = some n :=
  read_write digitValue_decimalDigit h (by norm_num)

/-! ## Texts -/

theorem decimalDigit_mod (n : ℕ) : decimalDigit (n % 10) = decimalDigit n := by
  rw [decimalDigit, decimalDigit, Nat.mod_mod]

/-- The character that the encoders compute for the digit at `m`. -/
theorem digitChar_tdiv (n m : ℕ) :
    digitChar (((n : ℤ).tdiv m).tmod 10) = decimalDigit (n / m) := by
  rw [← Int.ofNat_tdiv, digitChar_eq_decimalDigit]

theorem altText_natCast (n : ℕ) : altText n = write 10 decimalDigit 5 n := by
  have h10000 := digitChar_tdiv n 10000
  have h1000 := digitChar_tdiv n 1000
  have h100 := digitChar_tdiv n 100
  have h10 := digitChar_tdiv n 10
  push_cast at h10000 h1000 h100 h10
  simp only [altText, h10000, h1000, h100, h10, digitChar_eq_decimalDigit, write,
    decimalDigit_mod, Nat.div_div_eq_div_mul, List.nil_append, List.cons_append]

theorem threeDigitsText_natCast (n : ℕ) :
    threeDigitsText false n = write 10 decimalDigit 3 n := by
  have h100 := digitChar_tdiv n 100
  have h10 := digitChar_tdiv n 10
  push_cast at h100 h10
  simp only [threeDigitsText, Bool.false_eq_true, if_false, h100, h10, digitChar_eq_decimalDigit,
    write, decimalDigit_mod, Nat.div_div_eq_div_mul, List.nil_append, List.cons_append]

theorem fourDigits_eq_write (n : ℕ) : fourDigits n = write 10 decimalDigit 4 n := by
  simp only [fourDigits, write, decimalDigit_mod, Nat.div_div_eq_div_mul, List.nil_append,
    List.cons_append]

theorem readInHg_twoDecimals {n : ℕ} (h : n < 10 ^ 4) :
    readInHg (twoDecimals n) = some ((n : ℚ) / 100) := by
  have hread := readNumber_write h
  rw [← fourDigits_eq_write, fourDigits] at hread
  rw [twoDecimals, readInHg, hread, Option.map_some]

/-- The vertical speed: its sign, and the two digits of its hundreds. -/
theorem vsText_eq (n : ℤ) : vsText false n =
    (if n < 0 then 0x2d else 0x2b) ::
      (write 10 decimalDigit 2 (n.natAbs / 100) ++ [0x6f, 0x6f]) := by
  have h1000 := digitChar_tdiv n.natAbs 1000
  have h100 := digitChar_tdiv n.natAbs 100
  have habs : (if n < 0 then -1 * n else n) = (n.natAbs : ℤ) := by
    split_ifs <;> omega
  push_cast at h1000 h100 habs
  simp only [vsText, Bool.false_eq_true, if_false, habs, h1000, h100, write, decimalDigit_mod,
    Nat.div_div_eq_div_mul, List.nil_append, List.cons_append]

theorem readVs_vsText {n : ℤ} (h : n.natAbs < 10 ^ 4) :
    readVs (vsText false n) = some (decide (n < 0), n.natAbs / 100) := by
  have hread : readNumber (write 10 decimalDigit 2 (n.natAbs / 100)) = some (n.natAbs / 100) := by
    apply readNumber_write
    omega
  have hdigits : write 10 decimalDigit 2 (n.natAbs / 100) =
      [decimalDigit (n.natAbs / 100 / 10 % 10), decimalDigit (n.natAbs / 100 % 10)] := rfl
  -- sign, two digits, and the two characters at the end
  rw [vsText_eq, hdigits]
  rw [hdigits] at hread
  by_cases hneg : n < 0
  · simp [hneg, readVs, hread]
  · simp [hneg, readVs, hread]

/-! ## Encoders -/

/-- The effects are the push of one frame, which reads completely as a frame of the window. -/
def PushesText (w : Window) (text : Bytes) (es : List Effect) : Prop :=
  ∃ f, es = [.push f] ∧ readDisplayFrame f.message = some ⟨w.ids, w.name, w.device, text⟩

/-- The effects push one frame of the window, with a text of this length that decodes to the
value. -/
def ReadsBack {α : Type} (w : Window) (length : ℕ) (decode : Bytes → Option α) (value : α)
    (es : List Effect) : Prop :=
  ∃ text, PushesText w text es ∧ text.length = length ∧ decode text = some value

theorem pushesText_frame (w : Window) {text : Bytes} (h : text.length < 256) :
    PushesText w text [.push (w.frame text)] :=
  ⟨_, rfl, w.readDisplayFrame_frame h⟩

/-- The dashes of a managed window. -/
def dashes (length : ℕ) : Bytes := List.replicate length 0x2d

/-- What the display encoders promise, each over the whole range of its window. -/
structure EncodersRoundTrip : Prop where
  alt : ∀ n : ℕ, n ≤ 99999 → ReadsBack .alt 5 readNumber n (updateAlt n)
  spd : ∀ (w : SpdWindow) (n : ℕ), n ≤ 999 → w.spdManaged = false →
    ReadsBack .spd 3 readNumber n (updateSpd w n)
  spd_managed : ∀ (w : SpdWindow) (n : ℤ), w.spdManaged = true →
    PushesText .spd (dashes 3) (updateSpd w n)
  hdg : ∀ (w : HdgWindow) (n : ℕ), n ≤ 999 → w.hdgManaged = false →
    ReadsBack .hdg 3 readNumber n (updateHdg w n)
  hdg_managed : ∀ (w : HdgWindow) (n : ℤ), w.hdgManaged = true →
    PushesText .hdg (dashes 3) (updateHdg w n)
  /-- The sign, and the hundreds of the absolute value. -/
  vs : ∀ (w : VsWindow) (n : ℤ), -9999 ≤ n → n ≤ 9999 → w.vsManaged = false →
    ReadsBack .vs 5 readVs (decide (n < 0), n.natAbs / 100) (updateVs w n)
  vs_managed : ∀ (w : VsWindow) (n : ℤ), w.vsManaged = true →
    PushesText .vs (dashes 5) (updateVs w n)
  baroCpt_hPa : ∀ (b : Baro) (n : ℕ), n ≤ 9999 → b.baroMode ≠ 0 →
    ReadsBack .baroCpt 4 readNumber n (updateBaroCpt b n)
  baroCpt_inHg : ∀ (b : Baro) (n : ℕ), n ≤ 9999 → b.baroMode = 0 →
    ReadsBack .baroCpt 5 readInHg ((n : ℚ) / 100) (updateBaroCpt b ((n : ℚ) / 100))
  baroFo_hPa : ∀ (b : Baro) (n : ℕ), n ≤ 9999 → b.baroMode ≠ 0 →
    ReadsBack .baroFo 4 readNumber n (updateBaroFo b n)
  baroFo_inHg : ∀ (b : Baro) (n : ℕ), n ≤ 9999 → b.baroMode = 0 →
    ReadsBack .baroFo 5 readInHg ((n : ℚ) / 100) (updateBaroFo b ((n : ℚ) / 100))

/-- A number of three digits reads back. -/
theorem readsBack_threeDigits (w : Window) {n : ℕ} (h : n ≤ 999) :
    ReadsBack w 3 readNumber n [.push (w.frame (threeDigitsText false n))] := by
  refine ⟨threeDigitsText false n, pushesText_frame w (by simp), by simp, ?_⟩
  rw [threeDigitsText_natCast]
  exact readNumber_write (by omega)

theorem readsBack_hPa {bufs : BaroBuffers} {w : Window} (hbufs : bufs.For w) {b : Baro}
    (hmode : b.baroMode ≠ 0) {n : ℕ} (h : n ≤ 9999) :
    ReadsBack w 4 readNumber n (updateBaro bufs b n) := by
  have hn : trunc (n : ℚ) = n := trunc_intCast n
  rw [hbufs.hPa b n hmode, hn]
  refine ⟨hPaText n, pushesText_frame w (by simp), by simp, ?_⟩
  rw [hPaText_natCast, fourDigits_eq_write]
  exact readNumber_write (by omega)

theorem readsBack_inHg {bufs : BaroBuffers} {w : Window} (hbufs : bufs.For w) {b : Baro}
    (hmode : b.baroMode = 0) {n : ℕ} (h : n ≤ 9999) :
    ReadsBack w 5 readInHg ((n : ℚ) / 100) (updateBaro bufs b ((n : ℚ) / 100)) := by
  have hn : trunc ((n : ℚ) / 100 * 100) = n := by
    rw [div_mul_cancel₀ _ (by norm_num)]
    exact trunc_intCast n
  rw [hbufs.inHg b _ hmode, hn]
  refine ⟨inHgText n, pushesText_frame w (by simp), by simp, ?_⟩
  rw [inHgText_natCast]
  exact readInHg_twoDecimals (by omega)

/-- **Round trip of the encoders**: each pushes one frame of its window, which reads completely
and decodes to the number it was given. The product `BaroNew * 100` is exact here. -/
theorem encoders_roundTrip : EncodersRoundTrip where
  alt n h := by
    rw [updateAlt_eq]
    refine ⟨altText n, pushesText_frame _ (by simp), by simp, ?_⟩
    rw [altText_natCast]
    exact readNumber_write (by omega)
  spd w n h hw := by
    rw [updateSpd_eq, hw]
    exact readsBack_threeDigits .spd h
  spd_managed w n hw := by
    rw [updateSpd_eq, hw]
    exact pushesText_frame .spd (by simp [dashes])
  hdg w n h hw := by
    rw [updateHdg_eq, hw]
    exact readsBack_threeDigits .hdg h
  hdg_managed w n hw := by
    rw [updateHdg_eq, hw]
    exact pushesText_frame .hdg (by simp [dashes])
  vs w n hlow hhigh hw := by
    rw [updateVs_eq, hw]
    refine ⟨vsText false n, pushesText_frame _ (by simp), by simp, ?_⟩
    exact readVs_vsText (by omega)
  vs_managed w n hw := by
    rw [updateVs_eq, hw]
    exact pushesText_frame .vs (by simp [dashes])
  baroCpt_hPa _ _ h hmode := readsBack_hPa sendbufBaroLeft_for hmode h
  baroCpt_inHg _ _ h hmode := readsBack_inHg sendbufBaroLeft_for hmode h
  baroFo_hPa _ _ h hmode := readsBack_hPa sendBufBaroRight_for hmode h
  baroFo_inHg _ _ h hmode := readsBack_inHg sendBufBaroRight_for hmode h

end SkalarkiFcu
