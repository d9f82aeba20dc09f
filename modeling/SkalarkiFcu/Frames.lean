import SkalarkiFcu.Library.LittleEndian
import SkalarkiFcu.Library.Framing

/-!
# Messages and frames

What travels between the plugin and the panel. `SkalarkiMessage` is the buffer of
`SkalarkiComm.h`; `Frame` is a byte literal together with the length that is passed with it to
`PushMessage`. The second half is the panel's own reading of the bytes, which the plugin never
computes: the length a frame declares, the lamps that a type-0x63 frame switches, and the
window and text of a type-0x64 frame.
-/

namespace SkalarkiFcu

open LittleEndian

/-! ## Messages -/

/-- `SKALARKI_MESSAGE_MAX_LENGTH` -/
def skalarkiMessageMaxLength : ℕ := 256

/-- `SkalarkiMessage`: the first `_len` bytes of its buffer `_msg`, which holds 256. -/
structure SkalarkiMessage where
  msg : Bytes
  len_le : msg.length ≤ skalarkiMessageMaxLength
  deriving DecidableEq

/-- A byte literal of the source with the length that goes with it to `PushMessage`. -/
structure Frame where
  /-- The bytes of the literal, without its terminating NUL. -/
  literal : Bytes
  /-- The length argument, a separate variable of the source. -/
  len : ℕ
  deriving DecidableEq

/-- The bytes that `memcpy_s` takes from the literal. Behind the literal stands its NUL, or the
zeroes that fill a `char[200]`. -/
def Frame.message (f : Frame) : Bytes :=
  (f.literal ++ List.replicate (f.len - f.literal.length) 0).take f.len

theorem Frame.length_message (f : Frame) : f.message.length = f.len := by
  simp only [Frame.message, List.length_take, List.length_append, List.length_replicate]
  omega

theorem Frame.message_eq_literal {f : Frame} (h : f.len = f.literal.length) :
    f.message = f.literal := by
  simp [Frame.message, h]

/-! ## Declared lengths -/

/-- The length of a frame that starts with a little-endian word `L`: `L` and the overhead of
its direction, 12 bytes to the panel and 4 bytes from it. -/
def declaredLength (overhead : ℕ) (bs : Bytes) : Option ℕ :=
  (readWord bs).map fun r => r.1 + overhead

theorem declaredLength_head (overhead : ℕ) :
    Framing.HeadDeclares (declaredLength overhead) 4 := by
  intro s t hs
  have h := readWord_append hs t
  have hmap : ∀ o : Option (ℕ × Bytes),
      (o.map fun r => r.1 + overhead) = (o.map Prod.fst).map (· + overhead) := by
    intro o
    cases o <;> rfl
  rw [declaredLength, declaredLength, hmap, hmap, h]

/-- A frame to the panel has the length that its own header declares. -/
def WellFramed (bs : Bytes) : Prop := declaredLength 12 bs = some bs.length

instance : DecidablePred WellFramed := fun bs =>
  inferInstanceAs (Decidable (declaredLength 12 bs = some bs.length))

theorem WellFramed.twelve_le {bs : Bytes} (h : WellFramed bs) : 12 ≤ bs.length := by
  obtain ⟨r, -, hlen⟩ := Option.map_eq_some_iff.mp h
  omega

/-! ## Lamp frames (type 0x63) -/

/-- What a type-0x63 frame says: a switch position, the lamps and their device. -/
structure LampFrame where
  on : UInt8
  ids : List ℕ
  device : ℕ
  deriving DecidableEq

/-- Read a type-0x63 frame up to its device; the name behind the device is not needed. -/
def readLampFrame (bs : Bytes) : Option LampFrame := do
  let (_, r) ← readWord bs
  let (type, r) ← readWord r
  if type = 0x63 then
    let (_, r) ← readWord r
    let (on, r) ← readByte r
    let (_, r) ← readWord r
    let (_, r) ← readWord r
    let (count, r) ← readWord r
    let (ids, r) ← readWords count r
    let (device, _) ← readWord r
    some ⟨on, ids, device⟩
  else none

/-! ## Display frames (type 0x64) -/

/-- What a type-0x64 frame says: the digits of a window, its name and device, and a text. -/
structure DisplayFrame where
  ids : List ℕ
  name : Bytes
  device : ℕ
  text : Bytes
  deriving DecidableEq

/-- Read a type-0x64 frame, complete and with nothing left over. -/
def readDisplayFrame (bs : Bytes) : Option DisplayFrame := do
  let (length, r) ← readWord bs
  let (type, r) ← readWord r
  let (z, r) ← readWord r
  let (one, r) ← readWord r
  let (count, r) ← readWord r
  let (ids, r) ← readWords count r
  let (name, r) ← readPrefixed r
  let (device, r) ← readWord r
  let (flag, r) ← readByte r
  let (text, r) ← readPrefixed r
  -- a frame with other fixed fields, or with bytes left over, is none
  if type = 0x64 ∧ z = 0 ∧ one = 1 ∧ flag = 1 ∧ length + 12 = bs.length ∧ r = [] then
    some ⟨ids, name, device, text⟩
  else none

/-- The bytes of a display frame. -/
def DisplayFrame.bytes (d : DisplayFrame) : Bytes :=
  le32 (15 + 4 * d.ids.length + d.name.length + d.text.length) ++ (le32 0x64 ++ (le32 0 ++
    (le32 1 ++ (le32 d.ids.length ++ (d.ids.flatMap le32 ++
      (UInt8.ofNat d.name.length :: (d.name ++ (le32 d.device ++
        (1 :: UInt8.ofNat d.text.length :: (d.text ++ []))))))))))

/-- The fields of a display frame fit their places in the bytes. -/
structure DisplayFrame.Fits (d : DisplayFrame) : Prop where
  ids : ∀ i ∈ d.ids, i < 2 ^ 32
  count : d.ids.length < 256
  name : d.name.length < 256
  device : d.device < 2 ^ 32
  text : d.text.length < 256

theorem DisplayFrame.length_bytes (d : DisplayFrame) :
    d.bytes.length = 27 + 4 * d.ids.length + d.name.length + d.text.length := by
  have hids : (d.ids.flatMap le32).length = 4 * d.ids.length := by
    induction d.ids with
    | nil => rfl
    | cons i ids ih =>
      rw [List.flatMap_cons, List.length_append, ih, length_le32, List.length_cons]
      omega
  simp only [DisplayFrame.bytes, List.length_append, length_le32, hids, List.length_cons,
    List.length_nil]
  omega

/-- **Round trip**: the bytes of a display frame read back as that frame. -/
theorem readDisplayFrame_bytes {d : DisplayFrame} (h : d.Fits) :
    readDisplayFrame d.bytes = some d := by
  have hlen := d.length_bytes
  have hids := h.count
  have hname := h.name
  have htext := h.text
  have hL : 15 + 4 * d.ids.length + d.name.length + d.text.length < 2 ^ 32 := by omega
  have hcount : d.ids.length < 2 ^ 32 := by omega
  rw [readDisplayFrame, hlen]
  simp only [DisplayFrame.bytes, readWord_le32 hL, readWord_le32 hcount,
    readWord_le32 (show 0x64 < 2 ^ 32 by decide), readWord_le32 (show 0 < 2 ^ 32 by decide),
    readWord_le32 (show 1 < 2 ^ 32 by decide), readWord_le32 h.device,
    readWords_flatMap h.ids, readPrefixed_cons h.name, readPrefixed_cons h.text,
    readByte_cons, Option.bind_eq_bind, Option.bind_some]
  -- the declared length is that of the bytes
  have hsum : 15 + 4 * d.ids.length + d.name.length + d.text.length + 12 =
      27 + 4 * d.ids.length + d.name.length + d.text.length := by omega
  simp only [hsum, and_self, if_true]

/-- A display frame switches no lamp. -/
theorem readLampFrame_bytes {d : DisplayFrame} (h : d.Fits) : readLampFrame d.bytes = none := by
  have hids := h.count
  have hname := h.name
  have htext := h.text
  have hL : 15 + 4 * d.ids.length + d.name.length + d.text.length < 2 ^ 32 := by omega
  simp only [readLampFrame, DisplayFrame.bytes, readWord_le32 hL,
    readWord_le32 (show 0x64 < 2 ^ 32 by decide), Option.bind_eq_bind, Option.bind_some]
  rfl

end SkalarkiFcu
