import SkalarkiFcu.Library.Truncation
import SkalarkiFcu.Globals

/-!
# Display encoders

The functions of `SkalarkiCmd` that write a number into a display frame and push it. Each of
them patches digits into a copy of a literal, at offsets counted from a length variable.

The second half gives each encoder its specification: it pushes one frame, which reads as the
text of that encoder for its own window. Nothing after this file looks into the buffers again.
-/

namespace SkalarkiFcu

open LittleEndian Reactive Truncation

/-! ## The encoders -/

/-- `d + '0'`, stored into a `char`. -/
def digitChar (d : ℤ) : UInt8 := UInt8.ofInt (d + 0x30)

def sendbufAlt : Bytes :=
  [0x2b, 0x00, 0x00, 0x00, 0x64, 0x00, 0x00, 0x00, 0x00, 0x00, 0x00, 0x00, 0x01, 0x00, 0x00, 0x00,
   0x05, 0x00, 0x00, 0x00, 0x06, 0x00, 0x00, 0x00, 0x07, 0x00, 0x00, 0x00, 0x08, 0x00, 0x00, 0x00,
   0x09, 0x00, 0x00, 0x00, 0x0a, 0x00, 0x00, 0x00, 0x03, 0x41, 0x4c, 0x54, 0x14, 0x00, 0x00, 0x00,
   0x01, 0x05, 0x33, 0x30, 0x30, 0x30, 0x30]

/-- `UpdateAlt` -/
def updateAlt (altNew : ℤ) : List Effect :=
  let sendbufLenAlt := 55
  let alt_0 := (altNew.tdiv 10000).tmod 10
  let alt_1 := (altNew.tdiv 1000).tmod 10
  let alt_2 := (altNew.tdiv 100).tmod 10
  let alt_3 := (altNew.tdiv 10).tmod 10
  let alt_4 := altNew.tmod 10
  let buf := sendbufAlt.set (sendbufLenAlt - 4 - 1) (digitChar alt_0)
  let buf := buf.set (sendbufLenAlt - 3 - 1) (digitChar alt_1)
  let buf := buf.set (sendbufLenAlt - 2 - 1) (digitChar alt_2)
  let buf := buf.set (sendbufLenAlt - 1 - 1) (digitChar alt_3)
  let buf := buf.set (sendbufLenAlt - 0 - 1) (digitChar alt_4)
  pushMessage ⟨buf, sendbufLenAlt⟩

def sendbufSpd : Bytes :=
  [0x21, 0x00, 0x00, 0x00, 0x64, 0x00, 0x00, 0x00, 0x00, 0x00, 0x00, 0x00, 0x01, 0x00, 0x00, 0x00,
   0x03, 0x00, 0x00, 0x00, 0x00, 0x00, 0x00, 0x00, 0x01, 0x00, 0x00, 0x00, 0x02, 0x00, 0x00, 0x00,
   0x03, 0x53, 0x50, 0x44, 0x14, 0x00, 0x00, 0x00, 0x01, 0x03, 0x30, 0x30, 0x30]

def sendbufHdg : Bytes :=
  [0x21, 0x00, 0x00, 0x00, 0x64, 0x00, 0x00, 0x00, 0x00, 0x00, 0x00, 0x00, 0x01, 0x00, 0x00, 0x00,
   0x03, 0x00, 0x00, 0x00, 0x03, 0x00, 0x00, 0x00, 0x04, 0x00, 0x00, 0x00, 0x05, 0x00, 0x00, 0x00,
   0x03, 0x48, 0x44, 0x47, 0x14, 0x00, 0x00, 0x00, 0x01, 0x03, 0x30, 0x30, 0x30]

/-- The common body of `UpdateSpd` and `UpdateHdg`: three digits, or dashes in managed mode. -/
def updateThreeDigits (literal : Bytes) (managed : Bool) (new : ℤ) : List Effect :=
  let len := 45
  let buf :=
    if managed = false then
      -- `/` and `%` of C truncate, so the digits of a negative number are negative
      let alt_0 := (new.tdiv 100).tmod 10
      let alt_1 := (new.tdiv 10).tmod 10
      let alt_2 := new.tmod 10
      let buf := literal.set (len - 2 - 1) (digitChar alt_0)
      let buf := buf.set (len - 1 - 1) (digitChar alt_1)
      buf.set (len - 0 - 1) (digitChar alt_2)
    else
      let buf := literal.set (len - 2 - 1) 0x2d
      let buf := buf.set (len - 1 - 1) 0x2d
      buf.set (len - 0 - 1) 0x2d
  pushMessage ⟨buf, len⟩

/-- `UpdateSpd` -/
def updateSpd (w : SpdWindow) (spdNew : ℤ) : List Effect :=
  updateThreeDigits sendbufSpd w.spdManaged spdNew

/-- `UpdateHdg` -/
def updateHdg (w : HdgWindow) (hdgNew : ℤ) : List Effect :=
  updateThreeDigits sendbufHdg w.hdgManaged hdgNew

def sendbufVs : Bytes :=
  [0x2a, 0x00, 0x00, 0x00, 0x64, 0x00, 0x00, 0x00, 0x00, 0x00, 0x00, 0x00, 0x01, 0x00, 0x00, 0x00,
   0x05, 0x00, 0x00, 0x00, 0x0b, 0x00, 0x00, 0x00, 0x0c, 0x00, 0x00, 0x00, 0x0d, 0x00, 0x00, 0x00,
   0x0e, 0x00, 0x00, 0x00, 0x0f, 0x00, 0x00, 0x00, 0x02, 0x56, 0x53, 0x14, 0x00, 0x00, 0x00, 0x01,
   0x05, 0x20, 0x30, 0x30, 0x30, 0x30]

/-- `UpdateVs` -/
def updateVs (w : VsWindow) (vsNew : ℤ) : List Effect :=
  let sendBufVsLen := 54
  let buf :=
    if w.vsManaged = false then
      let sign := if vsNew < 0 then 0x2d else 0x2b
      -- the sign has its own character, and the last two digits are always `oo`
      let vsNew := if vsNew < 0 then -1 * vsNew else vsNew
      let alt_0 := (vsNew.tdiv 1000).tmod 10
      let alt_1 := (vsNew.tdiv 100).tmod 10
      let buf := sendbufVs.set (sendBufVsLen - 4 - 1) sign
      let buf := buf.set (sendBufVsLen - 3 - 1) (digitChar alt_0)
      let buf := buf.set (sendBufVsLen - 2 - 1) (digitChar alt_1)
      let buf := buf.set (sendBufVsLen - 1 - 1) 0x6f
      buf.set (sendBufVsLen - 0 - 1) 0x6f
    else
      let buf := sendbufVs.set (sendBufVsLen - 4 - 1) 0x2d
      let buf := buf.set (sendBufVsLen - 3 - 1) 0x2d
      let buf := buf.set (sendBufVsLen - 2 - 1) 0x2d
      let buf := buf.set (sendBufVsLen - 1 - 1) 0x2d
      buf.set (sendBufVsLen - 0 - 1) 0x2d
  pushMessage ⟨buf, sendBufVsLen⟩

/-- The two buffers of one barometer side: five characters for inHg, four for hPa and STD. -/
structure BaroBuffers where
  inHg : Bytes
  hPa : Bytes

/-- `sendbufBaroLeft` -/
def sendbufBaroLeft : BaroBuffers where
  inHg :=
    [0x2f, 0x00, 0x00, 0x00, 0x64, 0x00, 0x00, 0x00, 0x00, 0x00, 0x00, 0x00, 0x01, 0x00, 0x00, 0x00,
     0x04, 0x00, 0x00, 0x00, 0x10, 0x00, 0x00, 0x00, 0x11, 0x00, 0x00, 0x00, 0x12, 0x00, 0x00, 0x00,
     0x13, 0x00, 0x00, 0x00, 0x0b, 0x41, 0x4c, 0x54, 0x50, 0x52, 0x45, 0x53, 0x53, 0x55, 0x52, 0x45,
     0x0e, 0x00, 0x00, 0x00, 0x01, 0x05, 0x32, 0x39, 0x2e, 0x31, 0x30]
  hPa :=
    [0x2e, 0x00, 0x00, 0x00, 0x64, 0x00, 0x00, 0x00, 0x00, 0x00, 0x00, 0x00, 0x01, 0x00, 0x00, 0x00,
     0x04, 0x00, 0x00, 0x00, 0x10, 0x00, 0x00, 0x00, 0x11, 0x00, 0x00, 0x00, 0x12, 0x00, 0x00, 0x00,
     0x13, 0x00, 0x00, 0x00, 0x0b, 0x41, 0x4c, 0x54, 0x50, 0x52, 0x45, 0x53, 0x53, 0x55, 0x52, 0x45,
     0x0e, 0x00, 0x00, 0x00, 0x01, 0x04, 0x31, 0x30, 0x31, 0x33]

/-- `sendBufBaroRight` -/
def sendBufBaroRight : BaroBuffers where
  inHg :=
    [0x2f, 0x00, 0x00, 0x00, 0x64, 0x00, 0x00, 0x00, 0x00, 0x00, 0x00, 0x00, 0x01, 0x00, 0x00, 0x00,
     0x04, 0x00, 0x00, 0x00, 0x14, 0x00, 0x00, 0x00, 0x15, 0x00, 0x00, 0x00, 0x16, 0x00, 0x00, 0x00,
     0x17, 0x00, 0x00, 0x00, 0x0b, 0x41, 0x4c, 0x54, 0x50, 0x52, 0x45, 0x53, 0x53, 0x55, 0x52, 0x45,
     0x0f, 0x00, 0x00, 0x00, 0x01, 0x05, 0x33, 0x33, 0x2e, 0x33, 0x33]
  hPa :=
    [0x2e, 0x00, 0x00, 0x00, 0x64, 0x00, 0x00, 0x00, 0x00, 0x00, 0x00, 0x00, 0x01, 0x00, 0x00, 0x00,
     0x04, 0x00, 0x00, 0x00, 0x14, 0x00, 0x00, 0x00, 0x15, 0x00, 0x00, 0x00, 0x16, 0x00, 0x00, 0x00,
     0x17, 0x00, 0x00, 0x00, 0x0b, 0x41, 0x4c, 0x54, 0x50, 0x52, 0x45, 0x53, 0x53, 0x55, 0x52, 0x45,
     0x0f, 0x00, 0x00, 0x00, 0x01, 0x04, 0x31, 0x30, 0x31, 0x33]

/-- The common body of `SetBaroCptStd` and `SetBaroFoStd`. -/
def setBaroStd (bufs : BaroBuffers) : List Effect :=
  let sendBufBaroLen := 58
  -- the buffer with four characters, whatever the unit
  let buf := bufs.hPa.set (sendBufBaroLen - 3 - 1) 0x20
  let buf := buf.set (sendBufBaroLen - 2 - 1) 0x53
  let buf := buf.set (sendBufBaroLen - 1 - 1) 0x74
  let buf := buf.set (sendBufBaroLen - 0 - 1) 0x64
  pushMessage ⟨buf, sendBufBaroLen⟩

/-- The common body of `UpdateBaroCpt` and `UpdateBaroFo`. The product `BaroNew * 100`, which the
source computes in `float`, is exact here. -/
def updateBaro (bufs : BaroBuffers) (b : Baro) (baroNew : ℚ) : List Effect :=
  if b.baroMode = 0 then
    let baro_int := trunc (baroNew * 100)
    let sendBufBaroLen := 59
    let alt_0 := (baro_int.tdiv 1000).tmod 10
    let alt_1 := (baro_int.tdiv 100).tmod 10
    let alt_2 := (baro_int.tdiv 10).tmod 10
    let alt_3 := baro_int.tmod 10
    let buf := bufs.inHg.set (sendBufBaroLen - 4 - 1) (digitChar alt_0)
    let buf := buf.set (sendBufBaroLen - 3 - 1) (digitChar alt_1)
    let buf := buf.set (sendBufBaroLen - 2 - 1) 0x2e
    let buf := buf.set (sendBufBaroLen - 1 - 1) (digitChar alt_2)
    let buf := buf.set (sendBufBaroLen - 0 - 1) (digitChar alt_3)
    pushMessage ⟨buf, sendBufBaroLen⟩
  else
    let sendBufBaroLen := 58
    let baro_int := trunc baroNew
    let alt_0 := (baro_int.tdiv 1000).tmod 10
    let alt_1 := (baro_int.tdiv 100).tmod 10
    let alt_2 := (baro_int.tdiv 10).tmod 10
    let alt_3 := baro_int.tmod 10
    let buf := bufs.hPa.set (sendBufBaroLen - 3 - 1) (digitChar alt_0)
    let buf := buf.set (sendBufBaroLen - 2 - 1) (digitChar alt_1)
    let buf := buf.set (sendBufBaroLen - 1 - 1) (digitChar alt_2)
    let buf := buf.set (sendBufBaroLen - 0 - 1) (digitChar alt_3)
    pushMessage ⟨buf, sendBufBaroLen⟩

/-- `SetBaroCptStd` -/
def setBaroCptStd : List Effect := setBaroStd sendbufBaroLeft

/-- `SetBaroFoStd` -/
def setBaroFoStd : List Effect := setBaroStd sendBufBaroRight

/-- `UpdateBaroCpt` -/
def updateBaroCpt (b : Baro) (baroNew : ℚ) : List Effect := updateBaro sendbufBaroLeft b baroNew

/-- `UpdateBaroFo` -/
def updateBaroFo (b : Baro) (baroNew : ℚ) : List Effect := updateBaro sendBufBaroRight b baroNew

/-! ## The texts -/

/-- The five digits of an altitude. -/
def altText (n : ℤ) : Bytes :=
  [digitChar ((n.tdiv 10000).tmod 10), digitChar ((n.tdiv 1000).tmod 10),
    digitChar ((n.tdiv 100).tmod 10), digitChar ((n.tdiv 10).tmod 10), digitChar (n.tmod 10)]

/-- The three characters of the speed and the heading window. -/
def threeDigitsText (managed : Bool) (n : ℤ) : Bytes :=
  if managed then [0x2d, 0x2d, 0x2d]
  else [digitChar ((n.tdiv 100).tmod 10), digitChar ((n.tdiv 10).tmod 10),
    digitChar (n.tmod 10)]

/-- The five characters of the vertical-speed window: sign, two digits and `oo`. -/
def vsText (managed : Bool) (n : ℤ) : Bytes :=
  if managed then [0x2d, 0x2d, 0x2d, 0x2d, 0x2d]
  else [if n < 0 then 0x2d else 0x2b,
    digitChar (((if n < 0 then -1 * n else n).tdiv 1000).tmod 10),
    digitChar (((if n < 0 then -1 * n else n).tdiv 100).tmod 10), 0x6f, 0x6f]

/-- The text of a barometer in inHg, from the setting in hundredths: `dd.dd`. -/
def inHgText (n : ℤ) : Bytes :=
  [digitChar ((n.tdiv 1000).tmod 10), digitChar ((n.tdiv 100).tmod 10), 0x2e,
    digitChar ((n.tdiv 10).tmod 10), digitChar (n.tmod 10)]

/-- The text of a barometer in hPa: four digits. -/
def hPaText (n : ℤ) : Bytes :=
  [digitChar ((n.tdiv 1000).tmod 10), digitChar ((n.tdiv 100).tmod 10),
    digitChar ((n.tdiv 10).tmod 10), digitChar (n.tmod 10)]

/-- ` Std` -/
def stdText : Bytes := [0x20, 0x53, 0x74, 0x64]

/-! ## What the encoders push -/

/-- The display frame of a window with a text. -/
def Window.display (w : Window) (text : Bytes) : DisplayFrame := ⟨w.ids, w.name, w.device, text⟩

/-- The display frame of a window with a text, pushed with its full length. -/
def Window.frame (w : Window) (text : Bytes) : Frame :=
  ⟨(w.display text).bytes, (w.display text).bytes.length⟩

theorem updateAlt_eq (n : ℤ) : updateAlt n = [.push (Window.alt.frame (altText n))] := by
  with_unfolding_all rfl

theorem updateSpd_eq (w : SpdWindow) (n : ℤ) :
    updateSpd w n = [.push (Window.spd.frame (threeDigitsText w.spdManaged n))] := by
  unfold updateSpd
  cases w.spdManaged <;> with_unfolding_all rfl

theorem updateHdg_eq (w : HdgWindow) (n : ℤ) :
    updateHdg w n = [.push (Window.hdg.frame (threeDigitsText w.hdgManaged n))] := by
  unfold updateHdg
  cases w.hdgManaged <;> with_unfolding_all rfl

theorem updateVs_eq (w : VsWindow) (n : ℤ) :
    updateVs w n = [.push (Window.vs.frame (vsText w.vsManaged n))] := by
  unfold updateVs
  cases w.vsManaged <;> with_unfolding_all rfl

/-- The buffers belong to a window. -/
structure BaroBuffers.For (bufs : BaroBuffers) (w : Window) : Prop where
  std : setBaroStd bufs = [.push (w.frame stdText)]
  inHg : ∀ b x, b.baroMode = 0 →
    updateBaro bufs b x = [.push (w.frame (inHgText (trunc (x * 100))))]
  hPa : ∀ b x, b.baroMode ≠ 0 → updateBaro bufs b x = [.push (w.frame (hPaText (trunc x)))]

theorem sendbufBaroLeft_for : sendbufBaroLeft.For .baroCpt where
  std := rfl
  inHg b x h := by
    rw [updateBaro, if_pos h]
    with_unfolding_all rfl
  hPa b x h := by
    rw [updateBaro, if_neg h]
    with_unfolding_all rfl

theorem sendBufBaroRight_for : sendBufBaroRight.For .baroFo where
  std := rfl
  inHg b x h := by
    rw [updateBaro, if_pos h]
    with_unfolding_all rfl
  hPa b x h := by
    rw [updateBaro, if_neg h]
    with_unfolding_all rfl

end SkalarkiFcu
