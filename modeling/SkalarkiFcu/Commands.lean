import SkalarkiFcu.Library.FirstWins
import SkalarkiFcu.Targets

/-!
# Packets and their handlers

The lambdas that the constructor of `SkalarkiCmd` registers, the table that it fills, and
`ProcessPacket`. The table is keyed by a hash of the literal; the hash function of the standard
library is a parameter.

## Architecture

- **Handlers**: one action for each registered literal
- **Dispatch**: `CommandMap` and `ProcessPacket`
- **What a packet can do**: `Globals.Dialled`, the one relation that every handler and every
  packet satisfies; all invariants of the caches are derived from it
-/

namespace SkalarkiFcu

open LittleEndian Reactive

/-! ## Handlers -/

/-- `MIN_SPEED` -/
def minSpeed : ℚ := 125

/-- The handler of `SpdLeft`. -/
def spdLeft (w : SpdWindow) : SpdWindow :=
  let spdSet := w.spdSet - 1
  { w with spdSet := if spdSet < minSpeed then minSpeed else spdSet }

/-- The handler of `SpdRight`. -/
def spdRight (w : SpdWindow) : SpdWindow :=
  let spdSet := w.spdSet + 1
  { w with spdSet := if 999 < spdSet then 999 else spdSet }

/-- The handler of `HdgLeft`. -/
def hdgLeft (w : HdgWindow) : HdgWindow :=
  let hdgSet := w.hdgSet - 1
  { w with hdgSet := if hdgSet < 0 then hdgSet + 360 else hdgSet }

/-- The handler of `HdgRight`. -/
def hdgRight (w : HdgWindow) : HdgWindow :=
  let hdgSet := w.hdgSet + 1
  -- 360 itself is kept, and so is 0 by `HdgLeft`
  { w with hdgSet := if 360 < hdgSet then hdgSet - 360 else hdgSet }

/-- The handler of `AltLeft`. It reads the step from the simulator, not from the global. -/
def altLeft (env : Datarefs) (w : AltWindow) : AltWindow :=
  let altMode := env.gAltModeDataref
  let altSet := if altMode = 0 then w.alt - 100 else w.alt - 1000
  { w with altSet := if altSet ≤ 0 then 0 else altSet }

/-- The handler of `AltRight`. -/
def altRight (env : Datarefs) (w : AltWindow) : AltWindow :=
  let altMode := env.gAltModeDataref
  -- from `Alt`, like `AltLeft`, but without a bound
  { w with altSet := if altMode = 0 then w.alt + 100 else w.alt + 1000 }

/-- A handler that issues one simulator command. -/
def commandOnce (c : CommandRef) : Action Globals Effect := fun s => (s, [.commandOnce c])

/-- A handler that writes one integer dataref. -/
def setDatai (d : DataiRef) (v : ℤ) : Action Globals Effect := fun s => (s, [.setDatai d v])

/-- A handler that only turns a target on the plugin's side. -/
def dial {α : Type} (p : Part Globals α) (f : α → α) : Action Globals Effect :=
  p.zoom fun a => (f a, [])

/-- `NdModeSet = n`, `NdModeFoSet = n` -/
def ndModeTo (n : ℤ) (sel : NdSelector) : NdSelector := { sel with ndModeSet := n }

/-- The lambda that is registered with a literal, run while the datarefs read `env`. -/
def Command.handler (env : Datarefs) : Command → Action Globals Effect
  | .fdCptRelease => commandOnce .gFdCptToggleDataref
  | .lsCptRelease => commandOnce .gLsCptToggleDataref
  | .fdFoRelease => commandOnce .gFdFoToggleDataref
  | .lsFoRelease => commandOnce .gLsFoToggleDataref
  | .ap1Release => commandOnce .ap1_push
  | .ap2Release => commandOnce .ap2_push
  | .athrRelease => commandOnce .athr_push
  | .apprRelease => commandOnce .appr_push
  | .locRelease => commandOnce .gLocToggleDataref
  | .expedRelease => .skip  -- registered with an empty body
  | .spdPress => commandOnce .gSpdPressDataref
  | .spdPull => commandOnce .gSpdPullDataref
  | .spdLeft => dial Globals.spdPart SkalarkiFcu.spdLeft
  | .spdRight => dial Globals.spdPart SkalarkiFcu.spdRight
  | .hdgPress => commandOnce .gHdgPressDataref
  | .hdgPull => commandOnce .gHdgPullDataref
  | .hdgLeft => dial Globals.hdgPart SkalarkiFcu.hdgLeft
  | .hdgRight => dial Globals.hdgPart SkalarkiFcu.hdgRight
  | .altMode100 => commandOnce .gAltModeLeftDataref
  | .altMode1000 => commandOnce .gAltModeRightDataref
  | .altPress => commandOnce .gAltPressDataref
  | .altPull => commandOnce .gAltPullDataref
  | .altLeft => dial Globals.altPart (SkalarkiFcu.altLeft env)
  | .altRight => dial Globals.altPart (SkalarkiFcu.altRight env)
  | .baroCptInHg => commandOnce .gBaroCptInHg
  | .baroCptHPa => commandOnce .gBaroCptHpa
  | .baroCptPull => commandOnce .gBaroCptPull
  | .baroCptPress => commandOnce .gBaroCptPush
  | .baroCptLeft => commandOnce .gBaroCptDown
  | .baroCptRight => commandOnce .gBaroCptUp
  | .baroFoInHg => commandOnce .gBaroFoInHg
  | .baroFoHpa => commandOnce .gBaroFoHpa
  | .baroFoPull => commandOnce .gBaroFoPull
  | .baroFoPress => commandOnce .gBaroFoPush
  | .baroFoLeft => commandOnce .gBaroFoDown
  | .baroFoRight => commandOnce .gBaroFoUp
  | .ndModeLs => dial Globals.ndCptPart (ndModeTo 0)
  | .ndModeVor => dial Globals.ndCptPart (ndModeTo 1)
  | .ndModeNav => dial Globals.ndCptPart (ndModeTo 2)
  | .ndModeArc => dial Globals.ndCptPart (ndModeTo 3)
  | .ndModePlan => dial Globals.ndCptPart (ndModeTo 4)
  | .ndRange10 => setDatai .gNdRangeCptDataref 0
  | .ndRange20 => setDatai .gNdRangeCptDataref 1
  | .ndRange40 => setDatai .gNdRangeCptDataref 2
  | .ndRange80 => setDatai .gNdRangeCptDataref 3
  | .ndRange160 => setDatai .gNdRangeCptDataref 4
  | .ndRange320 => setDatai .gNdRangeCptDataref 5
  | .ndModeFoLs => dial Globals.ndFoPart (ndModeTo 0)
  | .ndModeFoVor => dial Globals.ndFoPart (ndModeTo 1)
  | .ndModeFoNav => dial Globals.ndFoPart (ndModeTo 2)
  | .ndModeFoArc => dial Globals.ndFoPart (ndModeTo 3)
  | .ndModeFoPlan => dial Globals.ndFoPart (ndModeTo 4)
  | .ndRangeFo10 => setDatai .gNdRangeFoDataref 0
  | .ndRangeFo20 => setDatai .gNdRangeFoDataref 1
  | .ndRangeFo40 => setDatai .gNdRangeFoDataref 2
  | .ndRangeFo80 => setDatai .gNdRangeFoDataref 3
  | .ndRangeFo160 => setDatai .gNdRangeFoDataref 4
  | .ndRangeFo320 => setDatai .gNdRangeFoDataref 5
  | .vsPullRelease => commandOnce .gVsPull
  | .vsPushRelease => commandOnce .gVsPush
  | .vsLeft => commandOnce .gVsDown
  | .vsRight => commandOnce .gVsUp

/-! ## Dispatch -/

/-- The hash of byte strings in the standard library that the plugin is built with: 64-bit
FNV-1a. The model takes the hash as a parameter; this one is for concrete packets. -/
def fnv1a (bs : Bytes) : UInt64 :=
  bs.foldl (fun h b => (h ^^^ b.toUInt64) * 1099511628211) 14695981039346656037

/-- `CommandMap`, as the constructor fills it: `emplace` keeps the first entry of a hash. -/
def commandMap (hash : Bytes → UInt64) : List (UInt64 × Command) :=
  FirstWins.ofList (fun c => hash c.literal) registered

/-- `CommandMap.find` with the hash of a packet. -/
def dispatch (hash : Bytes → UInt64) (recvbuf : Bytes) : Option Command :=
  FirstWins.lookup (commandMap hash) (hash recvbuf)

theorem dispatch_eq (hash : Bytes → UInt64) (recvbuf : Bytes) :
    dispatch hash recvbuf = registered.find? fun c => hash c.literal == hash recvbuf :=
  FirstWins.lookup_ofList _ _ _

/-- `ProcessPacket` -/
def processPacket (hash : Bytes → UInt64) (env : Datarefs) (recvbuf : Bytes) :
    Action Globals Effect := fun s =>
  let s := { s with packetCounter := s.packetCounter + 1 }
  match dispatch hash recvbuf with
  | some c =>
    let r := c.handler env s
    (r.1, .invoke c :: r.2)
  -- counted like any other packet
  | none => (s, [.debugString "A330_Skalarki: Error, unknown command.\n"])

/-- A packet that is found runs its handler. -/
theorem processPacket_of_some {hash : Bytes → UInt64} {recvbuf : Bytes} {c : Command}
    (h : dispatch hash recvbuf = some c) (env : Datarefs) (s : Globals) :
    processPacket hash env recvbuf s =
      ((c.handler env { s with packetCounter := s.packetCounter + 1 }).1,
        .invoke c :: (c.handler env { s with packetCounter := s.packetCounter + 1 }).2) := by
  unfold processPacket
  rw [h]

/-- A packet that is not found is reported. -/
theorem processPacket_of_none {hash : Bytes → UInt64} {recvbuf : Bytes}
    (h : dispatch hash recvbuf = none) (env : Datarefs) (s : Globals) :
    processPacket hash env recvbuf s = ({ s with packetCounter := s.packetCounter + 1 },
      [.debugString "A330_Skalarki: Error, unknown command.\n"]) := by
  unfold processPacket
  rw [h]

/-! ## What a packet can do -/

/-- `s'` differs from `s` at most in the targets that the panel dials, and in the packet
counter: every cache of what the panel shows is as it was. -/
def Globals.Dialled (s s' : Globals) : Prop :=
  ∃ (spdSet hdgSet altSet : ℚ) (ndModeSet ndModeFoSet packetCounter : ℤ),
    s' = { s with
      spd := { s.spd with spdSet := spdSet }
      hdg := { s.hdg with hdgSet := hdgSet }
      alt := { s.alt with altSet := altSet }
      ndCpt := { s.ndCpt with ndModeSet := ndModeSet }
      ndFo := { s.ndFo with ndModeSet := ndModeFoSet }
      packetCounter := packetCounter }

/-- A handler moves nothing but dialled targets. -/
theorem Command.handler_dialled (env : Datarefs) (c : Command) (s : Globals) :
    s.Dialled (c.handler env s).1 := by
  -- each handler is a command, a write or a `dial`: the result is a record update by definition
  cases c <;> exact ⟨_, _, _, _, _, _, rfl⟩

/-- A handler pushes no frame and calls no other handler: it talks to the simulator only. -/
theorem Command.handler_effects (env : Datarefs) (c : Command) (s : Globals) :
    ∀ e ∈ (c.handler env s).2, (∃ r, e = .commandOnce r) ∨ (∃ d v, e = .setDatai d v) := by
  cases c <;>
    simp [Command.handler, commandOnce, setDatai, dial, Part.zoom, Action.skip]

theorem Command.pushes_handler (env : Datarefs) (c : Command) (s : Globals) :
    pushes (c.handler env s).2 = [] := by
  rw [pushes, List.filterMap_eq_nil_iff]
  intro e he
  rcases c.handler_effects env s e he with ⟨r, rfl⟩ | ⟨d, v, rfl⟩
  · rfl
  · rfl

theorem processPacket_dialled (hash : Bytes → UInt64) (env : Datarefs) (recvbuf : Bytes)
    (s : Globals) : s.Dialled (processPacket hash env recvbuf s).1 := by
  unfold processPacket
  cases dispatch hash recvbuf with
  | none => exact ⟨_, _, _, _, _, _, rfl⟩
  | some c =>
    obtain ⟨_, _, _, _, _, _, h⟩ :=
      c.handler_dialled env { s with packetCounter := s.packetCounter + 1 }
    exact ⟨_, _, _, _, _, _, h⟩

/-- **Packets are silent**: no packet makes the plugin push a frame. -/
theorem pushes_processPacket (hash : Bytes → UInt64) (env : Datarefs) (recvbuf : Bytes)
    (s : Globals) : pushes (processPacket hash env recvbuf s).2 = [] := by
  cases h : dispatch hash recvbuf with
  | none =>
    rw [processPacket_of_none h]
    rfl
  | some c =>
    rw [processPacket_of_some h]
    exact c.pushes_handler env _

end SkalarkiFcu
