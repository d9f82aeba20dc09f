import Mathlib.Data.Rat.Floor
import SkalarkiFcu.Library.Reactive
import SkalarkiFcu.CmdList

/-!
# State, readings and effects

The global variables of `SkalarkiCmd.cpp`, the datarefs that the plugin reads, and what it does
to the outside. The globals are grouped by the window or light they serve; each group is a
`Part` of `Globals`, so that a block of `Update` can be written for its own group.

Floating-point values are exact rationals here, and C integers are unbounded.
-/

namespace SkalarkiFcu

open LittleEndian Reactive

/-! ## Datarefs -/

/-- The barometer datarefs of one side. -/
structure BaroDatarefs where
  /-- `gBaroCptMode`, `gBaroFoMode`: the unit knob, 0 = inHg, 1 = hPa. -/
  mode : ℚ
  /-- `gBaroCpt`, `gBaroFo`: the setting in inHg. -/
  setting : ℚ
  /-- `gBaroCptStd`, `gBaroFoStd`: 1 = STD. -/
  std : ℚ

/-- What the datarefs read, under the names of their handles. -/
structure Datarefs where
  gAltDataref : ℚ
  gSpdDataref : ℚ
  gHdgDataref : ℚ
  gVsDataref : ℚ
  /-- `laminar/A333/autopilot/alt_step_knob_pos` -/
  gAltModeDataref : ℤ
  /-- `laminar/A333/autopilot/hdg_window_open` -/
  gHdgManagedDataref : ℚ
  /-- `sim/cockpit2/autopilot/vnav_speed_window_open` -/
  gSpdManagedDataref : ℤ
  /-- `laminar/A333/autopilot/vvi_fpa_window_open` -/
  gVsManagedDataref : ℚ
  /-- `sim/cockpit2/autopilot/fms_vnav` -/
  gAltManagedDataref : ℤ
  /-- `athr_mode`, `appr`, `ap1`, `ap2`, `master_caution`, `master_warning`, `gLsCptDataref`,
  `gFdCptDataref`, `gLsFoDataref`, `gFdFoDataref`, `gLocDataref` -/
  annunciator : Annunciator → ℚ
  baroCpt : BaroDatarefs
  baroFo : BaroDatarefs

/-- Every dataref reads 0. -/
def Datarefs.zero : Datarefs where
  gAltDataref := 0
  gSpdDataref := 0
  gHdgDataref := 0
  gVsDataref := 0
  gAltModeDataref := 0
  gHdgManagedDataref := 0
  gSpdManagedDataref := 0
  gVsManagedDataref := 0
  gAltManagedDataref := 0
  annunciator := fun _ => 0
  baroCpt := ⟨0, 0, 0⟩
  baroFo := ⟨0, 0, 0⟩

/-- The simulator commands that the plugin issues. -/
inductive CommandRef where
  | gFdCptToggleDataref | gLsCptToggleDataref | gFdFoToggleDataref | gLsFoToggleDataref
  | ap1_push | ap2_push | athr_push | appr_push | gLocToggleDataref
  | gSpdPressDataref | gSpdPullDataref | gHdgPressDataref | gHdgPullDataref
  | gAltModeLeftDataref | gAltModeRightDataref | gAltPressDataref | gAltPullDataref
  | gBaroCptInHg | gBaroCptHpa | gBaroCptPull | gBaroCptPush | gBaroCptDown | gBaroCptUp
  | gBaroFoInHg | gBaroFoHpa | gBaroFoPull | gBaroFoPush | gBaroFoDown | gBaroFoUp
  | gVsPull | gVsPush | gVsDown | gVsUp
  | gNdModeCptLeftDataref | gNdModeCptRightDataref | gNdModeFoLeftDataref
  | gNdModeFoRightDataref
  deriving DecidableEq, Repr

/-- The float datarefs that the plugin writes. -/
inductive DatafRef where
  | gAltDataref | gSpdDataref | gHdgDataref
  deriving DecidableEq, Repr

/-- The integer datarefs that the plugin writes. -/
inductive DataiRef where
  | gNdRangeCptDataref | gNdRangeFoDataref
  deriving DecidableEq, Repr

/-! ## Effects -/

/-- What the plugin does to the outside. -/
inductive Effect where
  /-- An accepted `PushMessage`. -/
  | push (f : Frame)
  | commandOnce (c : CommandRef)
  | setDataf (d : DatafRef) (v : ℚ)
  | setDatai (d : DataiRef) (v : ℤ)
  /-- `CommandMap[hash]()` calls the handler that is registered with this literal. -/
  | invoke (c : Command)
  | debugString (text : String)
  deriving DecidableEq

/-- `SkalarkiComm::PushMessage`: the length check in front of the queue. -/
def pushMessage (f : Frame) : List Effect :=
  if skalarkiMessageMaxLength < f.len then
    [.debugString "A330_Skalarki: : Invalid length, > 256\n"]
  else if f.len = 0 then
    [.debugString "A330_Skalarki: : Invalid length, = 0\n"]
  else [.push f]

/-- The message that an accepted push puts into the queue. -/
def queued (f : Frame) (h : f.len ≤ skalarkiMessageMaxLength) : SkalarkiMessage :=
  ⟨f.message, by rw [f.length_message]; exact h⟩

/-! ## What a frame aims at -/

/-- The display windows of the panel. -/
inductive Window where
  | spd | hdg | alt | vs | baroCpt | baroFo
  deriving DecidableEq, Repr

/-- The name of a window in display frames. -/
def Window.name : Window → Bytes
  | .spd => [0x53, 0x50, 0x44]  -- "SPD"
  | .hdg => [0x48, 0x44, 0x47]  -- "HDG"
  | .alt => [0x41, 0x4c, 0x54]  -- "ALT"
  | .vs => [0x56, 0x53]  -- "VS"
  | .baroCpt | .baroFo =>  -- "ALTPRESSURE"
    [0x41, 0x4c, 0x54, 0x50, 0x52, 0x45, 0x53, 0x53, 0x55, 0x52, 0x45]

/-- The device of a window. -/
def Window.device : Window → ℕ
  | .spd | .hdg | .alt | .vs => 0x14
  | .baroCpt => 0x0e
  | .baroFo => 0x0f

/-- The digits of a window. -/
def Window.ids : Window → List ℕ
  | .spd => [0x00, 0x01, 0x02]
  | .hdg => [0x03, 0x04, 0x05]
  | .alt => [0x06, 0x07, 0x08, 0x09, 0x0a]
  | .vs => [0x0b, 0x0c, 0x0d, 0x0e, 0x0f]
  | .baroCpt => [0x10, 0x11, 0x12, 0x13]
  | .baroFo => [0x14, 0x15, 0x16, 0x17]

/-- What a frame can aim at. -/
inductive Target where
  | window (w : Window)
  | lamp (l : Lamp)
  deriving DecidableEq, Repr

/-- A display frame is for the window that it names on its device. -/
def Window.owns (w : Window) (d : DisplayFrame) : Bool :=
  d.name == w.name && d.device == w.device

/-- A lamp frame is for every lamp that has one of its ids on its device. -/
def Lamp.owns (l : Lamp) (f : LampFrame) : Bool :=
  f.device == l.address.1 && l.address.2.any f.ids.contains

/-- The effect is a push of a frame for the target. -/
def Effect.aims : Target → Effect → Bool
  | .window w, .push f => (readDisplayFrame f.message).any w.owns
  | .lamp l, .push f => (readLampFrame f.message).any l.owns
  | _, _ => false

/-- The frame that an effect pushes. -/
def Effect.frame? : Effect → Option Frame
  | .push f => some f
  | _ => none

/-- The frames that a trace pushes, in order. -/
def pushes (es : List Effect) : List Frame := es.filterMap Effect.frame?

@[simp] theorem pushes_append (es fs : List Effect) : pushes (es ++ fs) = pushes es ++ pushes fs :=
  List.filterMap_append

/-- The float dataref that an effect writes, with the value. -/
def Effect.dataf? : Effect → Option (DatafRef × ℚ)
  | .setDataf d v => some (d, v)
  | _ => none

/-- The writes of float datarefs in a trace, in order. -/
def written (es : List Effect) : List (DatafRef × ℚ) := es.filterMap Effect.dataf?

@[simp] theorem written_append (es fs : List Effect) :
    written (es ++ fs) = written es ++ written fs := List.filterMap_append

/-- The last value that a trace writes to a float dataref. -/
def lastWritten (d : DatafRef) (es : List Effect) : Option ℚ :=
  (((written es).filter fun w => w.1 = d).getLast?).map Prod.snd

/-- The text of a pushed display frame. -/
def Effect.text : Effect → Option Bytes
  | .push f => (readDisplayFrame f.message).map DisplayFrame.text
  | _ => none

/-- The text that a window shows after a trace: that of the last frame pushed for it. -/
def shownText (w : Window) (es : List Effect) : Option Bytes :=
  (latest (Effect.aims (.window w)) es).bind Effect.text

/-- The window shows only dashes. -/
def ShowsDashes (w : Window) (es : List Effect) : Prop :=
  ∃ text, shownText w es = some text ∧ ∀ b ∈ text, b = 0x2d

/-- The frames of a trace that aim at a target. -/
def framesFor (t : Target) (es : List Effect) : List Effect := es.filter (Effect.aims t)

/-! ## Global variables -/

/-- The globals of the speed window. -/
structure SpdWindow where
  spd : ℚ
  spdSet : ℚ
  spdManaged : Bool
  /-- The handle `gSpdManagedDataref` has been looked up. -/
  gSpdManagedDataref : Bool
  deriving DecidableEq

/-- The globals of the heading window. -/
structure HdgWindow where
  hdg : ℚ
  hdgSet : ℚ
  hdgManaged : Bool
  gHdgManagedDataref : Bool
  deriving DecidableEq

/-- The globals of the altitude window. -/
structure AltWindow where
  alt : ℚ
  altSet : ℚ
  altManaged : Bool
  altMode : ℤ
  gAltManagedDataref : Bool
  deriving DecidableEq

/-- The globals of the vertical-speed window. -/
structure VsWindow where
  vs : ℤ
  vsManaged : Bool
  gVsManagedDataref : Bool
  deriving DecidableEq

/-- The globals of one ND mode selector: `NdMode` and `NdModeSet`, or their Fo pair. -/
structure NdSelector where
  ndMode : ℤ
  ndModeSet : ℤ
  deriving DecidableEq

/-- The globals of one barometer, `BaroCpt…` or `BaroFo…`. -/
structure Baro where
  baro : ℚ
  baroStd : ℤ
  baroStdSet : ℤ
  baroMode : ℤ
  baroModeSet : ℤ
  baroDisplay : ℤ
  updateBaroValue : Bool
  updateBaroDisplay : Bool
  deriving DecidableEq

/-- The global variables. -/
structure Globals where
  spd : SpdWindow
  hdg : HdgWindow
  alt : AltWindow
  vs : VsWindow
  /-- `AthrState`, `ApprState`, `ApState1`, `ApState2`, `MasterCautionState`,
  `MasterWarningState`, `LsState`, `FdState`, `LsState2`, `FdState2`, `LocState` -/
  state : Annunciator → ℤ
  ndCpt : NdSelector
  ndFo : NdSelector
  baroCpt : Baro
  baroFo : Baro
  packetCounter : ℤ

/-- The initial values of one barometer. -/
def Baro.initial : Baro where
  baro := 29.92
  baroStd := 1
  baroStdSet := 1
  baroMode := 0
  baroModeSet := 0
  baroDisplay := 0
  updateBaroValue := true
  updateBaroDisplay := true

/-- The initial values of the globals. -/
def Globals.initial : Globals where
  spd := ⟨250, 250, true, false⟩
  hdg := ⟨0, 0, true, false⟩
  alt := ⟨0, 0, true, 0, false⟩
  vs := ⟨0, true, false⟩
  state := fun _ => 0
  ndCpt := ⟨0, 0⟩
  ndFo := ⟨0, 0⟩
  baroCpt := .initial
  baroFo := .initial
  packetCounter := 0

namespace Globals

def spdPart : Part Globals SpdWindow :=
  ⟨Globals.spd, fun w s => { s with spd := w }, fun _ _ => rfl⟩

def hdgPart : Part Globals HdgWindow :=
  ⟨Globals.hdg, fun w s => { s with hdg := w }, fun _ _ => rfl⟩

def altPart : Part Globals AltWindow :=
  ⟨Globals.alt, fun w s => { s with alt := w }, fun _ _ => rfl⟩

def vsPart : Part Globals VsWindow :=
  ⟨Globals.vs, fun w s => { s with vs := w }, fun _ _ => rfl⟩

def ndCptPart : Part Globals NdSelector :=
  ⟨Globals.ndCpt, fun n s => { s with ndCpt := n }, fun _ _ => rfl⟩

def ndFoPart : Part Globals NdSelector :=
  ⟨Globals.ndFo, fun n s => { s with ndFo := n }, fun _ _ => rfl⟩

def baroCptPart : Part Globals Baro :=
  ⟨Globals.baroCpt, fun b s => { s with baroCpt := b }, fun _ _ => rfl⟩

def baroFoPart : Part Globals Baro :=
  ⟨Globals.baroFo, fun b s => { s with baroFo := b }, fun _ _ => rfl⟩

/-- The state variable of one annunciator. -/
def statePart (k : Annunciator) : Part Globals ℤ where
  get s := s.state k
  set n s := { s with state := Function.update s.state k n }
  get_set := fun _ _ => Function.update_self ..

/-! An action on one part, as an update of the record: with these equations a block of zooms
computes field by field. -/

variable (s : Globals)

@[simp] theorem spdPart_zoom (a : Action SpdWindow Effect) :
    spdPart.zoom a s = ({ s with spd := (a s.spd).1 }, (a s.spd).2) := rfl

@[simp] theorem hdgPart_zoom (a : Action HdgWindow Effect) :
    hdgPart.zoom a s = ({ s with hdg := (a s.hdg).1 }, (a s.hdg).2) := rfl

@[simp] theorem altPart_zoom (a : Action AltWindow Effect) :
    altPart.zoom a s = ({ s with alt := (a s.alt).1 }, (a s.alt).2) := rfl

@[simp] theorem vsPart_zoom (a : Action VsWindow Effect) :
    vsPart.zoom a s = ({ s with vs := (a s.vs).1 }, (a s.vs).2) := rfl

@[simp] theorem ndCptPart_zoom (a : Action NdSelector Effect) :
    ndCptPart.zoom a s = ({ s with ndCpt := (a s.ndCpt).1 }, (a s.ndCpt).2) := rfl

@[simp] theorem ndFoPart_zoom (a : Action NdSelector Effect) :
    ndFoPart.zoom a s = ({ s with ndFo := (a s.ndFo).1 }, (a s.ndFo).2) := rfl

@[simp] theorem baroCptPart_zoom (a : Action Baro Effect) :
    baroCptPart.zoom a s = ({ s with baroCpt := (a s.baroCpt).1 }, (a s.baroCpt).2) := rfl

@[simp] theorem baroFoPart_zoom (a : Action Baro Effect) :
    baroFoPart.zoom a s = ({ s with baroFo := (a s.baroFo).1 }, (a s.baroFo).2) := rfl

@[simp] theorem statePart_zoom (k : Annunciator) (a : Action ℤ Effect) :
    (statePart k).zoom a s =
      ({ s with state := Function.update s.state k (a (s.state k)).1 }, (a (s.state k)).2) := rfl

end Globals

end SkalarkiFcu
