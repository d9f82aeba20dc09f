import Mathlib.Data.List.Nodup
import SkalarkiFcu.Frames

/-!
# The frame literals

The literals of `SkalarkiCmdList.h` that the plugin uses: the packets that the panel sends
and `CommandMap` registers, and the lamp frames that the plugin pushes, with the length
variable of each. The three kinds of literals have one layout each, so that a literal is
written here as the values it puts into that layout.

`initBuf`, the table of panel outputs that is sent first, is 19024 bytes of names that nothing
in the plugin reads. `InitFrame` keeps what the plugin relies on: its length and its header.
-/

namespace SkalarkiFcu

open LittleEndian

/-! ## The first buffer -/

/-- `intBufLen` -/
def intBufLen : ℕ := 19024

/-- A buffer with the length of `initBuf` and its header `0x4a44`. -/
structure InitFrame where
  bytes : Bytes
  length_eq : bytes.length = intBufLen
  header_eq : (readWord bytes).map Prod.fst = some 0x4a44

/-- The frame passes as one frame of the stream to the panel. -/
theorem InitFrame.wellFramed (b : InitFrame) : WellFramed b.bytes := by
  obtain ⟨⟨n, r⟩, hr, hn⟩ := Option.map_eq_some_iff.mp b.header_eq
  simp only at hn
  rw [WellFramed, declaredLength, hr, b.length_eq, Option.map_some, hn, intBufLen]

/-! ## Packets of the panel -/

/-- A packet of the panel: nine words and a byte. The words 0, 1, 3 and 8 are the same in every
packet. -/
def panelPacket (origin control kind event device : ℕ) (position : UInt8) : Bytes :=
  le32 0x21 ++ le32 0 ++ le32 origin ++ le32 1 ++ le32 control ++ le32 kind ++ le32 event ++
    le32 device ++ le32 1 ++ [position]

/-- The packets that the constructor of `SkalarkiCmd` registers, by the names of their
literals. -/
inductive Command where
  | fdCptRelease | lsCptRelease | fdFoRelease | lsFoRelease | ap1Release
  | ap2Release | athrRelease | apprRelease | locRelease | expedRelease
  | spdPress | spdPull | spdLeft | spdRight | hdgPress
  | hdgPull | hdgLeft | hdgRight | altMode100 | altMode1000
  | altPress | altPull | altLeft | altRight | baroCptInHg
  | baroCptHPa | baroCptPull | baroCptPress | baroCptLeft | baroCptRight
  | baroFoInHg | baroFoHpa | baroFoPull | baroFoPress | baroFoLeft
  | baroFoRight | ndModeLs | ndModeVor | ndModeNav | ndModeArc
  | ndModePlan | ndRange10 | ndRange20 | ndRange40 | ndRange80
  | ndRange160 | ndRange320 | ndModeFoLs | ndModeFoVor | ndModeFoNav
  | ndModeFoArc | ndModeFoPlan | ndRangeFo10 | ndRangeFo20 | ndRangeFo40
  | ndRangeFo80 | ndRangeFo160 | ndRangeFo320 | vsPullRelease | vsPushRelease
  | vsLeft | vsRight
  deriving DecidableEq, Repr

/-- The literal of a registered packet. -/
def Command.literal : Command → Bytes
  | .fdCptRelease => panelPacket 0x00 0x14 0x00 0x06b 0x0e 0x00
  | .lsCptRelease => panelPacket 0x00 0x13 0x00 0x06d 0x0e 0x00
  | .fdFoRelease => panelPacket 0x00 0x54 0x00 0x06b 0x0f 0x00
  | .lsFoRelease => panelPacket 0x00 0x55 0x00 0x06d 0x0f 0x00
  | .ap1Release => panelPacket 0x00 0x2c 0x00 0x0b0 0x14 0x00
  | .ap2Release => panelPacket 0x00 0x2d 0x00 0x0b1 0x14 0x00
  | .athrRelease => panelPacket 0x00 0x2a 0x00 0x0ab 0x14 0x00
  | .apprRelease => panelPacket 0x00 0x38 0x00 0x0b2 0x14 0x00
  | .locRelease => panelPacket 0x00 0x2b 0x00 0x0b7 0x14 0x00
  | .expedRelease => panelPacket 0x00 0x39 0x00 0x0b3 0x14 0x00
  | .spdPress => panelPacket 0x00 0x22 0x00 0x0bb 0x14 0x00
  | .spdPull => panelPacket 0x00 0x23 0x00 0x0ba 0x14 0x00
  | .spdLeft => panelPacket 0x45 0x20 0x01 0x1a3 0x14 0x00
  | .spdRight => panelPacket 0x45 0x21 0x01 0x1a3 0x14 0x01
  | .hdgPress => panelPacket 0x00 0x26 0x00 0x0b6 0x14 0x00
  | .hdgPull => panelPacket 0x00 0x27 0x00 0x0b5 0x14 0x00
  | .hdgLeft => panelPacket 0x45 0x24 0x01 0x1a2 0x14 0x00
  | .hdgRight => panelPacket 0x45 0x25 0x01 0x1a2 0x14 0x01
  | .altMode100 => panelPacket 0x00 0x33 0x00 0x0ac 0x14 0x01
  | .altMode1000 => panelPacket 0x00 0x32 0x00 0x0ad 0x14 0x01
  | .altPress => panelPacket 0x00 0x3f 0x00 0x0af 0x14 0x00
  | .altPull => panelPacket 0x00 0x3e 0x00 0x0ae 0x14 0x00
  | .altLeft => panelPacket 0x47 0x3c 0x01 0x1a1 0x14 0x00
  | .altRight => panelPacket 0x47 0x3d 0x01 0x1a1 0x14 0x01
  | .baroCptInHg => panelPacket 0x00 0x1d 0x00 0x06e 0x0e 0x01
  | .baroCptHPa => panelPacket 0x00 0x1c 0x00 0x06c 0x0e 0x01
  | .baroCptPull => panelPacket 0x00 0x1f 0x00 0x06f 0x0e 0x00
  | .baroCptPress => panelPacket 0x00 0x17 0x00 0x070 0x0e 0x00
  | .baroCptLeft => panelPacket 0x43 0x15 0x01 0x1a0 0x0e 0x00
  | .baroCptRight => panelPacket 0x43 0x16 0x01 0x1a0 0x0e 0x01
  | .baroFoInHg => panelPacket 0x00 0x5d 0x00 0x06e 0x0f 0x01
  | .baroFoHpa => panelPacket 0x00 0x5c 0x00 0x06c 0x0f 0x01
  | .baroFoPull => panelPacket 0x00 0x5f 0x00 0x06f 0x0f 0x00
  | .baroFoPress => panelPacket 0x00 0x51 0x00 0x070 0x0f 0x00
  | .baroFoLeft => panelPacket 0x4b 0x52 0x01 0x1a0 0x0f 0x00
  | .baroFoRight => panelPacket 0x4b 0x53 0x01 0x1a0 0x0f 0x01
  | .ndModeLs => panelPacket 0x00 0x10 0x00 0x072 0x0e 0x01
  | .ndModeVor => panelPacket 0x00 0x05 0x00 0x075 0x0e 0x01
  | .ndModeNav => panelPacket 0x00 0x07 0x00 0x073 0x0e 0x01
  | .ndModeArc => panelPacket 0x00 0x06 0x00 0x071 0x0e 0x01
  | .ndModePlan => panelPacket 0x00 0x04 0x00 0x074 0x0e 0x01
  | .ndRange10 => panelPacket 0x00 0x02 0x00 0x07b 0x0e 0x01
  | .ndRange20 => panelPacket 0x00 0x0f 0x00 0x07d 0x0e 0x01
  | .ndRange40 => panelPacket 0x00 0x0e 0x00 0x07f 0x0e 0x01
  | .ndRange80 => panelPacket 0x00 0x0d 0x00 0x080 0x0e 0x01
  | .ndRange160 => panelPacket 0x00 0x01 0x00 0x07c 0x0e 0x01
  | .ndRange320 => panelPacket 0x00 0x00 0x00 0x07e 0x0e 0x01
  | .ndModeFoLs => panelPacket 0x00 0x41 0x00 0x072 0x0f 0x01
  | .ndModeFoVor => panelPacket 0x00 0x4f 0x00 0x075 0x0f 0x01
  | .ndModeFoNav => panelPacket 0x00 0x4e 0x00 0x073 0x0f 0x01
  | .ndModeFoArc => panelPacket 0x00 0x4d 0x00 0x071 0x0f 0x01
  | .ndModeFoPlan => panelPacket 0x00 0x40 0x00 0x074 0x0f 0x01
  | .ndRangeFo10 => panelPacket 0x00 0x42 0x00 0x07b 0x0f 0x01
  | .ndRangeFo20 => panelPacket 0x00 0x45 0x00 0x07d 0x0f 0x01
  | .ndRangeFo40 => panelPacket 0x00 0x47 0x00 0x07f 0x0f 0x01
  | .ndRangeFo80 => panelPacket 0x00 0x46 0x00 0x080 0x0f 0x01
  | .ndRangeFo160 => panelPacket 0x00 0x44 0x00 0x07c 0x0f 0x01
  | .ndRangeFo320 => panelPacket 0x00 0x43 0x00 0x07e 0x0f 0x01
  | .vsPullRelease => panelPacket 0x00 0x37 0x00 0x0bc 0x14 0x00
  | .vsPushRelease => panelPacket 0x00 0x36 0x00 0x0bd 0x14 0x00
  | .vsLeft => panelPacket 0x47 0x34 0x01 0x1a4 0x14 0x00
  | .vsRight => panelPacket 0x47 0x35 0x01 0x1a4 0x14 0x01

/-- The entries of `CommandMap` in the order of their registration. -/
def registered : List Command :=
  [.fdCptRelease, .lsCptRelease, .fdFoRelease, .lsFoRelease, .ap1Release, .ap2Release,
   .athrRelease, .apprRelease, .locRelease, .expedRelease, .spdPress, .spdPull, .spdLeft,
   .spdRight, .hdgPress, .hdgPull, .hdgLeft, .hdgRight, .altMode100, .altMode1000, .altPress,
   .altPull, .altLeft, .altRight, .baroCptInHg, .baroCptHPa, .baroCptPull, .baroCptPress,
   .baroCptLeft, .baroCptRight, .baroFoInHg, .baroFoHpa, .baroFoPull, .baroFoPress, .baroFoLeft,
   .baroFoRight, .ndModeLs, .ndModeVor, .ndModeNav, .ndModeArc, .ndModePlan, .ndRange10,
   .ndRange20, .ndRange40, .ndRange80, .ndRange160, .ndRange320, .ndModeFoLs, .ndModeFoVor,
   .ndModeFoNav, .ndModeFoArc, .ndModeFoPlan, .ndRangeFo10, .ndRangeFo20, .ndRangeFo40,
   .ndRangeFo80, .ndRangeFo160, .ndRangeFo320, .vsPullRelease, .vsPushRelease, .vsLeft, .vsRight]

theorem mem_registered (c : Command) : c ∈ registered := by
  cases c <;> decide

/-- A packet is a frame of the panel: its first word is 4 less than its length. -/
theorem Command.declaredLength_literal (c : Command) :
    declaredLength 4 c.literal = some c.literal.length := by
  cases c <;> decide

/-- The literals of different commands are different: byte 16, the low byte of the control,
tells them apart. -/
theorem Command.literal_injective : Function.Injective Command.literal := by
  have hcontrols : (registered.map fun c => c.literal[16]?).Nodup := by decide +kernel
  intro c c' h
  exact List.inj_on_of_nodup_map hcontrols (mem_registered c) (mem_registered c') (by rw [h])

/-! ## Lamp frames -/

/-- A type-0x63 literal. The first word is written by hand in every literal of the source. -/
def lampLiteral (length : ℕ) (on : UInt8) (ids : List ℕ) (device : ℕ) (name : Bytes) : Bytes :=
  le32 length ++ le32 0x63 ++ le32 0 ++ [on] ++ le32 1 ++ le32 1 ++ le32 ids.length ++
    ids.flatMap le32 ++ le32 device ++ UInt8.ofNat name.length :: name

/-! ### Backlights, switched on once -/

def sendbufBacklightOn : Bytes :=
  lampLiteral 0x22 1 [0x5f] 0x2c  -- "FCUBACKLIGHT"
    [0x46, 0x43, 0x55, 0x42, 0x41, 0x43, 0x4b, 0x4c, 0x49, 0x47, 0x48, 0x54]
def sendbufLenBacklightOn : ℕ := 34 + 4

def altLvlChngOn : Bytes :=
  lampLiteral 0x3a 1 [0x21, 0x23, 0x26, 0x28, 0x2a, 0x2b, 0x2c, 0x2d] 0x14  -- "ALTLVLCH"
    [0x41, 0x4c, 0x54, 0x4c, 0x56, 0x4c, 0x43, 0x48]
def altLvlChngOnLen : ℕ := 58 + 4

def hdgVsOn : Bytes :=
  lampLiteral 0x37 1 [0x00, 0x01, 0x08, 0x09, 0x19, 0x1e, 0x22, 0x24] 0x14  -- "HDGVS"
    [0x48, 0x44, 0x47, 0x56, 0x53]
def hdgVsOnLen : ℕ := 67

def spdOn : Bytes := lampLiteral 0x1d 1 [0x02, 0x03] 0x14 [0x53, 0x50, 0x44]  -- "SPD"
def spdOnLen : ℕ := 41

def latOn : Bytes := lampLiteral 0x1d 1 [0x0b, 0x0c] 0x14 [0x4c, 0x41, 0x54]  -- "LAT"
def latOnLen : ℕ := 41

/-! ### Annunciators -/

def athrOn : Bytes := lampLiteral 0x1a 1 [0x13] 0x14 [0x41, 0x54, 0x48, 0x52]  -- "ATHR"
def athrOnLen : ℕ := 38
def athrOff : Bytes := lampLiteral 0x1a 0 [0x13] 0x14 [0x41, 0x54, 0x48, 0x52]  -- "ATHR"
def athrOffLen : ℕ := 38

def apprOn : Bytes := lampLiteral 0x1a 1 [0x11] 0x14 [0x41, 0x50, 0x50, 0x52]  -- "APPR"
def apprOnLen : ℕ := 38
def apprOff : Bytes := lampLiteral 0x1a 0 [0x11] 0x14 [0x41, 0x50, 0x50, 0x52]  -- "APPR"
def apprOffLen : ℕ := 38

def ap1On : Bytes := lampLiteral 0x19 1 [0x16] 0x14 [0x41, 0x50, 0x31]  -- "AP1"
def ap1OnLen : ℕ := 37
def ap1Off : Bytes := lampLiteral 0x19 0 [0x16] 0x14 [0x41, 0x50, 0x31]  -- "AP1"
def ap1OffLen : ℕ := 37

def ap2On : Bytes := lampLiteral 0x19 1 [0x14] 0x14 [0x41, 0x50, 0x32]  -- "AP2"
def ap2OnLen : ℕ := 37
def ap2Off : Bytes := lampLiteral 0x19 0 [0x14] 0x14 [0x41, 0x50, 0x32]  -- "AP2"
def ap2OffLen : ℕ := 37

def masterCautionOn : Bytes :=
  lampLiteral 0x29 1 [0x42, 0x44] 0x23  -- "CSMASTERCAUTION"
    [0x43, 0x53, 0x4d, 0x41, 0x53, 0x54, 0x45, 0x52, 0x43, 0x41, 0x55, 0x54, 0x49, 0x4f, 0x4e]
def masterCautionOnLen : ℕ := 53
def masterCautionOff : Bytes :=
  lampLiteral 0x29 0 [0x42, 0x44] 0x23  -- "CSMASTERCAUTION"
    [0x43, 0x53, 0x4d, 0x41, 0x53, 0x54, 0x45, 0x52, 0x43, 0x41, 0x55, 0x54, 0x49, 0x4f, 0x4e]
def masterCautionOffLen : ℕ := 53

def masterWarningOn : Bytes :=
  lampLiteral 0x29 1 [0x43, 0x45] 0x23  -- "CSMASTERWARNING"
    [0x43, 0x53, 0x4d, 0x41, 0x53, 0x54, 0x45, 0x52, 0x57, 0x41, 0x52, 0x4e, 0x49, 0x4e, 0x47]
def masterWarningOff : Bytes :=
  lampLiteral 0x29 0 [0x43, 0x45] 0x23  -- "CSMASTERWARNING"
    [0x43, 0x53, 0x4d, 0x41, 0x53, 0x54, 0x45, 0x52, 0x57, 0x41, 0x52, 0x4e, 0x49, 0x4e, 0x47]
def masterWarningOffLen : ℕ := 53

def lsCptOn : Bytes := lampLiteral 0x19 1 [0x31] 0x0e [0x49, 0x4c, 0x53]  -- "ILS"
def lsCptOnLen : ℕ := 37
def lsCptOff : Bytes := lampLiteral 0x19 0 [0x31] 0x0e [0x49, 0x4c, 0x53]  -- "ILS"
def lsCptOffLen : ℕ := 37

def fdCptOn : Bytes := lampLiteral 0x18 1 [0x30] 0x0e [0x46, 0x44]  -- "FD"
def fdCptOnLen : ℕ := 36
def fdCptOff : Bytes := lampLiteral 0x18 0 [0x30] 0x0e [0x46, 0x44]  -- "FD"
def fdCptOffLen : ℕ := 36

def lsFoOn : Bytes := lampLiteral 0x19 1 [0x49] 0x0f [0x49, 0x4c, 0x53]  -- "ILS"
def lsFoOnLen : ℕ := 37
def lsFoOff : Bytes := lampLiteral 0x19 0 [0x49] 0x0f [0x49, 0x4c, 0x53]  -- "ILS"
def lsFoOffLen : ℕ := 37

def fdFoOn : Bytes := lampLiteral 0x18 1 [0x48] 0x0f [0x46, 0x44]  -- "FD"
def fdFoOnLen : ℕ := 37
def fdFoOff : Bytes := lampLiteral 0x18 0 [0x48] 0x0f [0x46, 0x44]  -- "FD"
def fdFoOffLen : ℕ := 37

def locOn : Bytes := lampLiteral 0x19 1 [0x15] 0x14 [0x4c, 0x4f, 0x43]  -- "LOC"
def locOnLen : ℕ := 37
def locOff : Bytes := lampLiteral 0x19 0 [0x15] 0x14 [0x4c, 0x4f, 0x43]  -- "LOC"
def locOffLen : ℕ := 37

/-! ### Managed-mode dots -/

def spdDotOn : Bytes :=
  lampLiteral 0x21 1 [0x04] 0x14  -- "AIRSPEEDDOT"
    [0x41, 0x49, 0x52, 0x53, 0x50, 0x45, 0x45, 0x44, 0x44, 0x4f, 0x54]
def spdDotOnLen : ℕ := 45
def spdDotOff : Bytes :=
  lampLiteral 0x21 0 [0x04] 0x14  -- "AIRSPEEDDOT"
    [0x41, 0x49, 0x52, 0x53, 0x50, 0x45, 0x45, 0x44, 0x44, 0x4f, 0x54]
def spdDotOffLen : ℕ := 45

def hdgDotOn : Bytes :=
  lampLiteral 0x1c 1 [0x0a] 0x14 [0x4c, 0x41, 0x54, 0x44, 0x4f, 0x54]  -- "LATDOT"
def hdgDotOnLen : ℕ := 40
def hdgDotOff : Bytes :=
  lampLiteral 0x1c 0 [0x0a] 0x14 [0x4c, 0x41, 0x54, 0x44, 0x4f, 0x54]  -- "LATDOT"
def hdgDotOffLen : ℕ := 40

def altDotOn : Bytes :=
  lampLiteral 0x1c 1 [0x29] 0x14 [0x41, 0x4c, 0x54, 0x44, 0x4f, 0x54]  -- "ALTDOT"
def altDotOnLen : ℕ := 40
def altDotOff : Bytes :=
  lampLiteral 0x1c 0 [0x29] 0x14 [0x41, 0x4c, 0x54, 0x44, 0x4f, 0x54]  -- "ALTDOT"
def altDotOffLen : ℕ := 40

/-! ## Lamps

The lamps that follow the simulator. A frame for one of them is any type-0x63 frame to its
device that names one of its lamp ids.
-/

/-- The annunciators of the panel. -/
inductive Annunciator where
  | athr | appr | ap1 | ap2 | masterCaution | masterWarning | lsCpt | fdCpt | lsFo | fdFo | loc
  deriving DecidableEq, Repr

/-- The managed-mode dots of the panel. -/
inductive Dot where
  | spd | hdg | alt
  deriving DecidableEq, Repr

/-- The lamps of the panel. -/
inductive Lamp where
  | annunciator (k : Annunciator)
  | dot (d : Dot)
  deriving DecidableEq, Repr

/-- The literal that switches an annunciator on, with the length that is pushed with it: the
warning light takes the length of the caution light. -/
def Annunciator.onFrame : Annunciator → Frame
  | .athr => ⟨athrOn, athrOnLen⟩
  | .appr => ⟨apprOn, apprOnLen⟩
  | .ap1 => ⟨ap1On, ap1OnLen⟩
  | .ap2 => ⟨ap2On, ap2OnLen⟩
  | .masterCaution => ⟨masterCautionOn, masterCautionOnLen⟩
  | .masterWarning => ⟨masterWarningOn, masterCautionOnLen⟩
  | .lsCpt => ⟨lsCptOn, lsCptOnLen⟩
  | .fdCpt => ⟨fdCptOn, fdCptOnLen⟩
  | .lsFo => ⟨lsFoOn, lsFoOnLen⟩
  | .fdFo => ⟨fdFoOn, fdFoOnLen⟩
  | .loc => ⟨locOn, locOnLen⟩

/-- The literal that switches an annunciator off, with its length. -/
def Annunciator.offFrame : Annunciator → Frame
  | .athr => ⟨athrOff, athrOffLen⟩
  | .appr => ⟨apprOff, apprOffLen⟩
  | .ap1 => ⟨ap1Off, ap1OffLen⟩
  | .ap2 => ⟨ap2Off, ap2OffLen⟩
  | .masterCaution => ⟨masterCautionOff, masterCautionOffLen⟩
  | .masterWarning => ⟨masterWarningOff, masterWarningOffLen⟩
  | .lsCpt => ⟨lsCptOff, lsCptOffLen⟩
  | .fdCpt => ⟨fdCptOff, fdCptOffLen⟩
  | .lsFo => ⟨lsFoOff, lsFoOffLen⟩
  | .fdFo => ⟨fdFoOff, fdFoOffLen⟩
  | .loc => ⟨locOff, locOffLen⟩

/-- The literal that switches a dot on, with its length. -/
def Dot.onFrame : Dot → Frame
  | .spd => ⟨spdDotOn, spdDotOnLen⟩
  | .hdg => ⟨hdgDotOn, hdgDotOnLen⟩
  | .alt => ⟨altDotOn, altDotOnLen⟩

/-- The literal that switches a dot off, with its length. -/
def Dot.offFrame : Dot → Frame
  | .spd => ⟨spdDotOff, spdDotOffLen⟩
  | .hdg => ⟨hdgDotOff, hdgDotOffLen⟩
  | .alt => ⟨altDotOff, altDotOffLen⟩

/-- The device and the ids of a lamp. -/
def Lamp.address : Lamp → ℕ × List ℕ
  | .annunciator .athr => (0x14, [0x13])
  | .annunciator .appr => (0x14, [0x11])
  | .annunciator .ap1 => (0x14, [0x16])
  | .annunciator .ap2 => (0x14, [0x14])
  | .annunciator .masterCaution => (0x23, [0x42, 0x44])
  | .annunciator .masterWarning => (0x23, [0x43, 0x45])
  | .annunciator .lsCpt => (0x0e, [0x31])
  | .annunciator .fdCpt => (0x0e, [0x30])
  | .annunciator .lsFo => (0x0f, [0x49])
  | .annunciator .fdFo => (0x0f, [0x48])
  | .annunciator .loc => (0x14, [0x15])
  | .dot .spd => (0x14, [0x04])
  | .dot .hdg => (0x14, [0x0a])
  | .dot .alt => (0x14, [0x29])

end SkalarkiFcu
