import SkalarkiFcu.Library.Steering
import SkalarkiFcu.Baro

/-!
# The ND mode selectors

A packet of an ND mode knob dials a position, and `Update` turns the simulator's selector there
by single steps. The plugin counts these steps in `NdMode`, which starts at 0 (LS) and is never
compared with the simulator, although `InitDatarefs` looks up the dataref of the position. A
selector that starts elsewhere is therefore ahead of `NdMode`, until the upper end has absorbed
the difference.

The simulator is modelled here as far as the claim about it goes: the two commands of a knob turn
the selector of that side by one position, between 0 and 4, and nothing else turns it.

## Architecture

- **The simulator**: `Side.turn` and `Side.simulated`
- **The plugin**: what the loops issue, and the position that a packet dials
- **Runs**: `NdTracked` and `ndReaches_iff`
-/

namespace SkalarkiFcu

open LittleEndian Reactive History Steering

/-! ## The simulator -/

/-- The command that an effect issues. -/
def Effect.issued? : Effect → Option CommandRef
  | .commandOnce c => some c
  | _ => none

/-- The simulator commands of a trace, in order. -/
def issued (es : List Effect) : List CommandRef := es.filterMap Effect.issued?

@[simp] theorem issued_append (es fs : List Effect) : issued (es ++ fs) = issued es ++ issued fs :=
  List.filterMap_append

namespace Side

def knobLeft : Side → CommandRef
  | .cpt => .gNdModeCptLeftDataref
  | .fo => .gNdModeFoLeftDataref

def knobRight : Side → CommandRef
  | .cpt => .gNdModeCptRightDataref
  | .fo => .gNdModeFoRightDataref

/-- The selector of a side in the simulator, after a command. -/
def turn (side : Side) (p : Fin 5) (c : CommandRef) : Fin 5 :=
  if c = side.knobRight then up p else if c = side.knobLeft then down p else p

/-- The selector of a side in the simulator, after some commands. -/
def turned (side : Side) (p : Fin 5) (cs : List CommandRef) : Fin 5 := cs.foldl side.turn p

theorem turned_append (side : Side) (p : Fin 5) (cs ds : List CommandRef) :
    side.turned p (cs ++ ds) = side.turned (side.turned p cs) ds := List.foldl_append

/-- Commands of other knobs do not turn the selector. -/
theorem turned_of_forall_ne (side : Side) (p : Fin 5) {cs : List CommandRef}
    (h : ∀ c ∈ cs, c ≠ side.knobLeft ∧ c ≠ side.knobRight) : side.turned p cs = p := by
  induction cs with
  | nil => rfl
  | cons c cs ih =>
    rw [List.forall_mem_cons] at h
    obtain ⟨⟨hleft, hright⟩, hcs⟩ := h
    rw [turned, List.foldl_cons, turn, if_neg hright, if_neg hleft]
    exact ih hcs

theorem turned_replicate (side : Side) (p : Fin 5) (n : ℕ) (c : CommandRef) :
    side.turned p (List.replicate n c) = (fun p => side.turn p c)^[n] p := by
  induction n generalizing p with
  | zero => rfl
  | succ n ih => rw [List.replicate_succ, Function.iterate_succ_apply, ← ih, turned, turned,
      List.foldl_cons]

theorem turn_knobRight (side : Side) (p : Fin 5) : side.turn p side.knobRight = up p :=
  if_pos rfl

theorem turn_knobLeft (side : Side) (p : Fin 5) : side.turn p side.knobLeft = down p := by
  cases side <;> rfl

end Side

/-! ## The plugin -/

theorem issued_ndSteps (left right : CommandRef) (d : ℤ) :
    issued (Update.ndSteps left right d) =
      List.replicate d.natAbs (if 0 < d then right else left) := by
  simp [issued, Update.ndSteps, List.filterMap_replicate, Effect.issued?]

namespace Side

/-- The globals of the selector of a side. -/
def selector : Side → Globals → NdSelector
  | .cpt => Globals.ndCpt
  | .fo => Globals.ndFo

/-- The position that a handler dials on a side. -/
def ndPosition : Side → Command → Option (Fin 5)
  | .cpt, .ndModeLs => some 0
  | .cpt, .ndModeVor => some 1
  | .cpt, .ndModeNav => some 2
  | .cpt, .ndModeArc => some 3
  | .cpt, .ndModePlan => some 4
  | .fo, .ndModeFoLs => some 0
  | .fo, .ndModeFoVor => some 1
  | .fo, .ndModeFoNav => some 2
  | .fo, .ndModeFoArc => some 3
  | .fo, .ndModeFoPlan => some 4
  | _, _ => none

/-- The loop of a side brings the simulator from the cached position to the dialled one. -/
theorem turned_ndSteps (side : Side) (a b : ℕ) (p : Fin 5) :
    side.turned p (issued (Update.ndSteps side.knobLeft side.knobRight (b - a))) =
      steer a b p := by
  have hright : (fun p => side.turn p side.knobRight) = up := funext side.turn_knobRight
  have hleft : (fun p => side.turn p side.knobLeft) = down := funext side.turn_knobLeft
  rw [issued_ndSteps, turned_replicate, steer]
  rcases lt_trichotomy a b with hlt | rfl | hgt
  · have hsteps : ((b : ℤ) - a).natAbs = b - a := by omega
    -- the dialled position is to the right
    rw [if_pos (by omega), if_pos hlt.le, hright, hsteps]
  · simp
  · have hsteps : ((b : ℤ) - a).natAbs = a - b := by omega
    -- or to the left
    rw [if_neg (by omega), if_neg hgt.not_ge, hleft, hsteps]

/-- The loop of the other side does not turn the selector. -/
theorem turned_ndSteps_of_ne {side other : Side} (h : side ≠ other) (d : ℤ) (p : Fin 5) :
    side.turned p (issued (Update.ndSteps other.knobLeft other.knobRight d)) = p := by
  apply turned_of_forall_ne
  intro c hc
  rw [issued_ndSteps] at hc
  have hknob : c = other.knobRight ∨ c = other.knobLeft := by
    rw [List.eq_of_mem_replicate hc]
    split_ifs
    · exact .inl rfl
    · exact .inr rfl
  -- the knobs of the two sides are different commands
  cases side <;> cases other <;> rcases hknob with rfl | rfl <;>
    first | exact absurd rfl h | exact ⟨nofun, nofun⟩

/-- **Update and the simulator**: the commands of an update steer the selector of a side from
the cached position to the dialled one. -/
theorem turned_update (side : Side) (env : Datarefs) (s : Globals) {a b : ℕ}
    (ha : (side.selector s).ndMode = a) (hb : (side.selector s).ndModeSet = b) (p : Fin 5) :
    side.turned p (issued (update env s).2) = steer a b p := by
  have hpush : ∀ f : Frame, f.Accepted → Effect.issued? (.push f) = none := fun _ _ => rfl
  have hset : ∀ d v, Effect.issued? (.setDataf d v) = none := fun _ _ => rfl
  have hissued : issued (update env s).2 =
      issued (Update.ndSteps Side.cpt.knobLeft Side.cpt.knobRight
        (s.ndCpt.ndModeSet - s.ndCpt.ndMode)) ++
      issued (Update.ndSteps Side.fo.knobLeft Side.fo.knobRight
        (s.ndFo.ndModeSet - s.ndFo.ndMode)) := by
    rw [issued, observed_update_of_push hpush, Update.observed_hdgValue hpush hset,
      Update.observed_spdValue hpush hset, Update.observed_altValue hpush hset, List.append_nil,
      List.append_nil, List.append_nil, Update.ndMode_eq, Update.ndMode_eq]
    rfl
  rw [hissued, turned_append]
  -- one of the two loops is that of this side
  cases side with
  | cpt =>
    have ha' : s.ndCpt.ndMode = a := ha
    have hb' : s.ndCpt.ndModeSet = b := hb
    have hne : Side.cpt ≠ Side.fo := nofun
    rw [turned_ndSteps_of_ne hne, ha', hb', turned_ndSteps]
  | fo =>
    have ha' : s.ndFo.ndMode = a := ha
    have hb' : s.ndFo.ndModeSet = b := hb
    have hne : Side.fo ≠ Side.cpt := nofun
    rw [turned_ndSteps_of_ne hne, ha', hb', turned_ndSteps]

theorem selector_update (side : Side) (env : Datarefs) (s : Globals) :
    side.selector (update env s).1 =
      ⟨(side.selector s).ndModeSet, (side.selector s).ndModeSet⟩ := by
  cases side with
  | cpt => exact (update_ndCpt env s).trans (congrArg Prod.fst (Update.ndMode_eq _))
  | fo => exact (update_ndFo env s).trans (congrArg Prod.fst (Update.ndMode_eq _))

theorem selector_handler (side : Side) (env : Datarefs) (c : Command) (s : Globals) :
    side.selector (c.handler env s).1 =
      (side.ndPosition c).elim (side.selector s) fun n => ndModeTo (n : ℕ) (side.selector s) := by
  cases side <;> cases c <;> rfl

/-- No handler issues a command of the knobs. -/
theorem turned_handler (side : Side) (env : Datarefs) (c : Command) (s : Globals) (p : Fin 5) :
    side.turned p (issued (c.handler env s).2) = p := by
  cases side <;> cases c <;> rfl

theorem selector_processPacket (side : Side) (hash : Bytes → UInt64) (env : Datarefs)
    (recvbuf : Bytes) (s : Globals) :
    side.selector (processPacket hash env recvbuf s).1 =
      ((dispatch hash recvbuf).bind side.ndPosition).elim (side.selector s)
        fun n => ndModeTo (n : ℕ) (side.selector s) := by
  cases h : dispatch hash recvbuf with
  | none =>
    rw [processPacket_of_none h]
    cases side <;> rfl
  | some c =>
    rw [processPacket_of_some h, selector_handler, Option.bind_some]
    cases side <;> rfl

theorem turned_processPacket (side : Side) (hash : Bytes → UInt64) (env : Datarefs)
    (recvbuf : Bytes) (s : Globals) (p : Fin 5) :
    side.turned p (issued (processPacket hash env recvbuf s).2) = p := by
  cases h : dispatch hash recvbuf with
  | none =>
    rw [processPacket_of_none h]
    rfl
  | some c =>
    rw [processPacket_of_some h]
    exact side.turned_handler env c _ p

end Side

/-! ## Runs -/

section Runs

variable (hash : Bytes → UInt64) (env₀ : Datarefs)

namespace Side

/-- The position that an event dials on a side: that of the handler which a packet reaches. -/
def dials (side : Side) : Event → Option (Fin 5)
  | .packet _ recvbuf => (dispatch hash recvbuf).bind side.ndPosition
  | .update _ => none

/-- The last position that the packets have dialled on a side. -/
def lastDialled (side : Side) (events : List Event) : Option (Fin 5) :=
  (events.filterMap (side.dials hash)).getLast?

/-- The selector of a side in the simulator, in the course of a run. -/
def simulated (side : Side) (p₀ : Fin 5) (events : List Event) : Fin 5 :=
  side.turned p₀ (issued (session hash env₀ events).2)

end Side

/-- Some update so far has found PLAN, the last position, dialled on this side. -/
def PlanReached (side : Side) (events : List Event) : Prop :=
  ∃ pre env, pre ++ [.update env] <+: events ∧ side.lastDialled hash pre = some 4

/-- The loop of a selector ends, at the dialled position, whatever the bound on its rounds. -/
def NdLoopTerminates (side : Side) (sel : NdSelector) : Prop :=
  ∀ n, (sel.ndModeSet - sel.ndMode).natAbs ≤ n →
    Update.ndLoop side.knobLeft side.knobRight n sel =
      Update.ndMode side.knobLeft side.knobRight sel ∧
    (Update.ndMode side.knobLeft side.knobRight sel).1.ndMode = sel.ndModeSet

/-- After the update the simulator has the position of the last packet, on both sides. -/
def NdRight (p₀ : Side → Fin 5) (pre : List Event) (env : Datarefs) : Prop :=
  ∀ (side : Side) (n : Fin 5), side.lastDialled hash pre = some n →
    side.simulated hash env₀ (p₀ side) (pre ++ [.update env]) = n

/-- The selection of the ND modes reaches the simulator in a run. -/
structure NdReaches (p₀ : Side → Fin 5) (events : List Event) : Prop where
  terminates : ∀ pre, pre <+: events → ∀ side : Side,
    NdLoopTerminates side (side.selector (session hash env₀ pre).1)
  right : AtUpdates (NdRight hash env₀ p₀) events

/-- A side that has been dialled started in the position LS, or has been at PLAN. -/
def NdAligned (p₀ : Side → Fin 5) (pre : List Event) (env : Datarefs) : Prop :=
  ∀ side : Side, side.lastDialled hash pre ≠ none →
    p₀ side = 0 ∨ PlanReached hash side (pre ++ [.update env])

theorem ndLoopTerminates (side : Side) (sel : NdSelector) : NdLoopTerminates side sel := by
  intro n hn
  rw [Update.ndMode_eq]
  exact ⟨Update.ndLoop_eq hn, rfl⟩

variable {hash env₀} {side : Side} {p₀ : Fin 5} {pre : List Event}

/-- The selector in the simulator and its cached position, in terms of the highest position `m`
so far. -/
structure NdTracked (hash : Bytes → UInt64) (env₀ : Datarefs) (side : Side) (p₀ : Fin 5)
    (pre : List Event) (m a : ℕ) : Prop where
  ndMode : (side.selector (session hash env₀ pre).1).ndMode = a
  ndModeSet : (side.selector (session hash env₀ pre).1).ndModeSet =
    (((side.lastDialled hash pre).getD 0 : Fin 5) : ℕ)
  ahead : Ahead p₀ m a (side.simulated hash env₀ p₀ pre)
  cached_le : a ≤ m
  highest_le : m ≤ 4
  highest : m = 4 ↔ PlanReached hash side pre

theorem issued_started (env₀ : Datarefs) : issued (started env₀).2 = [] := by
  rw [started_snd, issued, List.filterMap_map]
  exact List.filterMap_eq_nil_iff.mpr fun _ _ => rfl

theorem ndTracked_nil (hash : Bytes → UInt64) (env₀ : Datarefs) (side : Side) (p₀ : Fin 5) :
    NdTracked hash env₀ side p₀ [] 0 0 where
  ndMode := by
    rw [session_nil, started_fst]
    cases side <;> rfl
  ndModeSet := by
    rw [session_nil, started_fst]
    cases side <;> rfl
  ahead := by
    have hstart : side.simulated hash env₀ p₀ [] = p₀ := by
      -- the start issues no commands
      rw [Side.simulated, session_nil, issued_started]
      rfl
    rw [Ahead, hstart]
    omega
  cached_le := le_rfl
  highest_le := Nat.zero_le 4
  highest := by
    -- there has been no update yet
    refine iff_of_false (Nat.zero_ne_add_one 3) ?_
    rintro ⟨pre, env, hpre, -⟩
    have := hpre.length_le
    simp at this

theorem planReached_packet (env : Datarefs) (recvbuf : Bytes) :
    PlanReached hash side (pre ++ [.packet env recvbuf]) ↔ PlanReached hash side pre := by
  constructor
  · rintro ⟨pre', env', hpre, hplan⟩
    -- the packet itself is no update
    rcases List.prefix_concat_iff.mp hpre with heq | hpre
    · have := (List.append_inj' heq rfl).2
      simp at this
    · exact ⟨pre', env', hpre, hplan⟩
  · rintro ⟨pre', env', hpre, hplan⟩
    exact ⟨pre', env', hpre.trans (List.prefix_append _ _), hplan⟩

theorem planReached_update (env : Datarefs) :
    PlanReached hash side (pre ++ [.update env]) ↔
      PlanReached hash side pre ∨ side.lastDialled hash pre = some 4 := by
  constructor
  · rintro ⟨pre', env', hpre, hplan⟩
    rcases List.prefix_concat_iff.mp hpre with heq | hpre
    · obtain ⟨rfl, -⟩ := List.append_inj' heq rfl
      -- this update
      exact .inr hplan
    · exact .inl ⟨pre', env', hpre, hplan⟩
  · rintro (⟨pre', env', hpre, hplan⟩ | hplan)
    · exact ⟨pre', env', hpre.trans (List.prefix_append _ _), hplan⟩
    · exact ⟨pre, env, List.prefix_rfl, hplan⟩

theorem lastDialled_packet (env : Datarefs) (recvbuf : Bytes) :
    side.lastDialled hash (pre ++ [.packet env recvbuf]) =
      ((dispatch hash recvbuf).bind side.ndPosition).or (side.lastDialled hash pre) := by
  rw [Side.lastDialled, List.filterMap_append, List.getLast?_append, Side.lastDialled]
  cases h : (dispatch hash recvbuf).bind side.ndPosition <;> simp [Side.dials, h]

theorem lastDialled_update (env : Datarefs) :
    side.lastDialled hash (pre ++ [.update env]) = side.lastDialled hash pre := by
  simp [Side.lastDialled, Side.dials]

/-- A packet dials, and turns nothing. -/
theorem NdTracked.packet {m a : ℕ} (h : NdTracked hash env₀ side p₀ pre m a) (env : Datarefs)
    (recvbuf : Bytes) : NdTracked hash env₀ side p₀ (pre ++ [.packet env recvbuf]) m a := by
  have hselector : side.selector (session hash env₀ (pre ++ [.packet env recvbuf])).1 =
      ((dispatch hash recvbuf).bind side.ndPosition).elim
        (side.selector (session hash env₀ pre).1)
        fun n => ndModeTo (n : ℕ) (side.selector (session hash env₀ pre).1) := by
    rw [session_packet, exec_fst]
    exact side.selector_processPacket hash env recvbuf _
  refine ⟨?_, ?_, ?_, h.cached_le, h.highest_le, h.highest.trans (planReached_packet ..).symm⟩
  · rw [hselector, ← h.ndMode]
    cases (dispatch hash recvbuf).bind side.ndPosition <;> rfl
  · rw [hselector, lastDialled_packet]
    cases (dispatch hash recvbuf).bind side.ndPosition with
    | none => exact h.ndModeSet
    | some n => rfl
  · have hsim : side.simulated hash env₀ p₀ (pre ++ [.packet env recvbuf]) =
        side.simulated hash env₀ p₀ pre := by
      -- a handler issues no command of a knob of this side
      rw [Side.simulated, session_packet, exec_snd, issued_append, Side.turned_append,
        side.turned_processPacket]
      rfl
    rw [hsim]
    exact h.ahead

/-- An update steers to the dialled position. -/
theorem NdTracked.update {m a b : ℕ} (h : NdTracked hash env₀ side p₀ pre m a) (env : Datarefs)
    (hb : b = ((side.lastDialled hash pre).getD 0 : Fin 5)) :
    NdTracked hash env₀ side p₀ (pre ++ [.update env]) (max m b) b := by
  have hset : (side.selector (session hash env₀ pre).1).ndModeSet = b := by
    rw [h.ndModeSet, hb]
  have hselector : side.selector (session hash env₀ (pre ++ [.update env])).1 = ⟨b, b⟩ := by
    rw [session_update, exec_fst, side.selector_update, hset]
  have hlt : b < 5 := by
    rw [hb]
    exact Fin.isLt _
  refine ⟨?_, ?_, ?_, le_max_right m b, max_le h.highest_le (by omega), ?_⟩
  · rw [hselector]
  · rw [hselector, lastDialled_update, hb]
  · have hsim : side.simulated hash env₀ p₀ (pre ++ [.update env]) =
        steer a b (side.simulated hash env₀ p₀ pre) := by
      rw [Side.simulated, session_update, exec_snd, issued_append, Side.turned_append,
        side.turned_update env _ h.ndMode hset]
      rfl
    rw [hsim]
    exact h.ahead.steer h.cached_le (by omega)
  · -- the highest position becomes PLAN if it was there, or if PLAN is dialled now
    have hplan : b = 4 ↔ side.lastDialled hash pre = some 4 := by
      rw [hb]
      cases side.lastDialled hash pre with
      | none => simp
      | some n => simp [Fin.ext_iff]
    have hm := h.highest_le
    rw [planReached_update, ← h.highest, ← hplan]
    omega

/-- **Tracking**: in every run the simulator is ahead of the cached position by what the highest
position so far has left of the initial difference. -/
theorem ndTracked (hash : Bytes → UInt64) (env₀ : Datarefs) (side : Side) (p₀ : Fin 5)
    (events : List Event) : ∃ m a, NdTracked hash env₀ side p₀ events m a := by
  induction events using history_induction with
  | nil => exact ⟨0, 0, ndTracked_nil hash env₀ side p₀⟩
  | packet pre env recvbuf ih =>
    obtain ⟨m, a, h⟩ := ih
    exact ⟨m, a, h.packet env recvbuf⟩
  | update pre env ih =>
    obtain ⟨m, a, h⟩ := ih
    exact ⟨_, _, h.update env rfl⟩

/-- One update: the position of the last packet is reached on the sides that are aligned. -/
theorem ndRight_iff {p₀ : Side → Fin 5} {env : Datarefs} :
    NdRight hash env₀ p₀ pre env ↔ NdAligned hash p₀ pre env := by
  have hside : ∀ (side : Side) (n : Fin 5), side.lastDialled hash pre = some n →
      (side.simulated hash env₀ (p₀ side) (pre ++ [.update env]) = n ↔
        p₀ side = 0 ∨ PlanReached hash side (pre ++ [.update env])) := by
    intro side n hn
    obtain ⟨m, a, h⟩ := ndTracked hash env₀ side (p₀ side) pre
    have hb : (n : ℕ) = ((side.lastDialled hash pre).getD 0 : Fin 5) := by rw [hn]; rfl
    have hupdate := h.update env hb
    -- aligned means started at 0 or having been against the stop
    rw [← hupdate.highest, Fin.ext_iff, hupdate.ahead.eq_iff hupdate.highest_le, Fin.ext_iff]
    rfl
  constructor
  · intro h side hne
    obtain ⟨n, hn⟩ := Option.ne_none_iff_exists'.mp hne
    exact (hside side n hn).mp (h side n hn)
  · intro h side n hn
    apply (hside side n hn).mpr
    apply h
    rw [hn]
    exact Option.some_ne_none n

/-- **ND modes**: the loops terminate in every run, and the selections reach the simulator if and
only if every side that is dialled starts at LS or has been brought to PLAN. -/
theorem ndReaches_iff (hash : Bytes → UInt64) (env₀ : Datarefs) (p₀ : Side → Fin 5)
    (events : List Event) :
    NdReaches hash env₀ p₀ events ↔ AtUpdates (NdAligned hash p₀) events := by
  constructor
  · intro h pre env hpre
    exact ndRight_iff.mp (h.right pre env hpre)
  · intro h
    refine ⟨fun pre _ side => ndLoopTerminates side _, fun pre env hpre => ?_⟩
    exact ndRight_iff.mpr (h pre env hpre)

end Runs

/-- The captain's selector starts at NAV; a packet for ARC turns it to PLAN. -/
theorem ndReaches_nav : ¬ ∀ (hash : Bytes → UInt64) (env₀ : Datarefs) (p₀ : Side → Fin 5)
    (events : List Event), NdReaches hash env₀ p₀ events := by
  intro h
  have hdispatch := separatesLiterals_fnv1a.dispatch_literal .ndModeArc
  have hlast : Side.cpt.lastDialled fnv1a [.packet .zero Command.ndModeArc.literal] = some 3 := by
    simp [Side.lastDialled, Side.dials, hdispatch, Side.ndPosition]
  have hright := (h fnv1a .zero (fun _ => 2)
    ([.packet .zero Command.ndModeArc.literal] ++ [.update .zero])).right _ _ List.prefix_rfl
  rcases ndRight_iff.mp hright .cpt (by simp [hlast]) with hzero | hplan
  · cases hzero
  · rw [planReached_update, hlast] at hplan
    rcases hplan with ⟨pre, env, hpre, -⟩ | h4
    · -- there is no update in front of the packet
      have hmem : Event.update env ∈ [Event.packet .zero Command.ndModeArc.literal] :=
        hpre.subset (by simp)
      simp at hmem
    · cases h4

end SkalarkiFcu
