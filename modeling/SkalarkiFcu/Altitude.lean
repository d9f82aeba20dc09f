import SkalarkiFcu.Dispatch

/-!
# Altitude clicks

The handlers of the altitude knob compute `AltSet` from `Alt`, and only `Update` moves `AltSet`
into `Alt`: of the clicks that one cycle of the flight loop drains, the last one alone counts.
`altitudeAfter` is the altitude that all clicks together should reach.

## Architecture

- **Specification**: `Click.turn`, folded over the clicks of a run of cycles
- **One cycle**: `cycleView_concat`, what the drained clicks and the update leave behind
- **Runs**: `altitudeRight_iff`
-/

namespace SkalarkiFcu

open LittleEndian Reactive History

/-! ## Specification -/

/-- A click of the altitude knob. -/
inductive Click where
  | left | right
  deriving DecidableEq, Repr

/-- What a click does to an altitude. -/
def Click.turn (step x : ℚ) : Click → ℚ
  | .left => max 0 (x - step)
  | .right => x + step

/-- The packet of a click. -/
def Click.command : Click → Command
  | .left => .altLeft
  | .right => .altRight

/-- The step that the handlers read. -/
def altStep (env : Datarefs) : ℚ := if env.gAltModeDataref = 0 then 100 else 1000

theorem altStep_pos (env : Datarefs) : 0 < altStep env := by
  unfold altStep
  split <;> norm_num

/-- One cycle of the flight loop: the clicks it drains, and the readings of its update. -/
structure Cycle where
  clicks : List (Datarefs × Click)
  env : Datarefs

/-- The events of a cycle. -/
def Cycle.events (c : Cycle) : List Event :=
  c.clicks.map (fun p => .packet p.1 p.2.command.literal) ++ [.update c.env]

/-- The altitude after some clicks. -/
def turned (step x : ℚ) (clicks : List (Datarefs × Click)) : ℚ :=
  clicks.foldl (fun x p => p.2.turn step x) x

/-- The altitude after all clicks of some cycles. -/
def altitudeAfter (step x : ℚ) (cycles : List Cycle) : ℚ :=
  turned step x (cycles.flatMap Cycle.clicks)

theorem altitudeAfter_concat (step x : ℚ) (cycles : List Cycle) (c : Cycle) :
    altitudeAfter step x (cycles ++ [c]) = turned step (altitudeAfter step x cycles) c.clicks := by
  simp [altitudeAfter, turned, List.foldl_append]

theorem turned_concat (step x : ℚ) (clicks : List (Datarefs × Click)) (p : Datarefs × Click) :
    turned step x (clicks ++ [p]) = p.2.turn step (turned step x clicks) := by
  simp [turned]

/-! ## One click -/

theorem altLeft_eq_turn (env : Datarefs) (w : AltWindow) :
    altLeft env w = { w with altSet := Click.left.turn (altStep env) w.alt } := by
  have hclamp : ∀ y : ℚ, (if y ≤ 0 then 0 else y) = max 0 y := by
    intro y
    by_cases hy : y ≤ 0
    · rw [if_pos hy, max_eq_left hy]
    · rw [if_neg hy, max_eq_right (not_le.mp hy).le]
  simp only [altLeft, hclamp, Click.turn, altStep]
  -- the two positions of the step knob
  by_cases h : env.gAltModeDataref = 0 <;> simp [h]

theorem altRight_eq_turn (env : Datarefs) (w : AltWindow) :
    altRight env w = { w with altSet := Click.right.turn (altStep env) w.alt } := by
  by_cases h : env.gAltModeDataref = 0 <;> simp [altRight, Click.turn, altStep, h]

/-- A click dials a target from the altitude of the last update. -/
theorem processPacket_click {hash : Bytes → UInt64} (hhash : SeparatesLiterals hash)
    (env : Datarefs) (click : Click) (s : Globals) :
    (processPacket hash env click.command.literal s).1.alt =
      { s.alt with altSet := click.turn (altStep env) s.alt.alt } ∧
    written (processPacket hash env click.command.literal s).2 = [] := by
  rw [processPacket_of_some (hhash.dispatch_literal click.command)]
  -- both handlers read `Alt`, and not the `AltSet` of the click before
  cases click with
  | left =>
    refine ⟨?_, rfl⟩
    simp only [Click.command, Command.handler, dial, Globals.altPart_zoom, altLeft_eq_turn]
  | right =>
    refine ⟨?_, rfl⟩
    simp only [Click.command, Command.handler, dial, Globals.altPart_zoom, altRight_eq_turn]

/-! ## One cycle -/

/-- What the altitude window has, as far as altitudes go: `Alt`, `AltSet`, and the altitude of
the simulator, which starts at `x₀`. -/
@[ext] structure AltView where
  alt : ℚ
  altSet : ℚ
  dataref : ℚ

def altView (x₀ : ℚ) (c : Config Globals Effect) : AltView where
  alt := c.1.alt.alt
  altSet := c.1.alt.altSet
  dataref := (lastWritten .gAltDataref c.2).getD x₀

/-- The target that the clicks of a cycle dial: that of the last click alone. -/
def dialled (step : ℚ) (v : AltView) (clicks : List (Datarefs × Click)) : ℚ :=
  match clicks.getLast? with
  | none => v.altSet
  | some p => p.2.turn step v.alt

theorem lastWritten_append (d : DatafRef) (es fs : List Effect) :
    lastWritten d (es ++ fs) = (lastWritten d fs).or (lastWritten d es) := by
  simp only [lastWritten, written_append, List.filter_append, List.getLast?_append]
  cases ((written fs).filter fun w => decide (w.1 = d)).getLast? <;> rfl

theorem lastWritten_of_written_eq_nil (d : DatafRef) {es : List Effect} (h : written es = []) :
    lastWritten d es = none := by
  simp [lastWritten, h]

/-- What an update writes to the altitude dataref. -/
theorem lastWritten_update (env : Datarefs) (s : Globals) :
    lastWritten .gAltDataref (update env s).2 =
      if s.alt.alt ≠ s.alt.altSet then some s.alt.altSet else none := by
  rw [lastWritten, written_update, Update.written_hdgValue, Update.written_spdValue,
    Update.written_altValue, Update.altMode_alt, Update.altMode_altSet]
  split_ifs <;> simp

theorem update_alt_alt (env : Datarefs) (s : Globals) :
    (update env s).1.alt.alt = s.alt.altSet ∧ (update env s).1.alt.altSet = s.alt.altSet := by
  rw [update_alt]
  by_cases h : s.alt.alt = s.alt.altSet <;> simp [Update.altValue, h]

section Cycles

variable {hash : Bytes → UInt64} (hhash : SeparatesLiterals hash) (env₀ : Datarefs) {step : ℚ}

/-- The events of some cycles, one after the other. -/
def cycleEvents (cycles : List Cycle) : List Event := cycles.flatMap Cycle.events

/-- The altitudes after some cycles. -/
def cycleView (hash : Bytes → UInt64) (env₀ : Datarefs) (cycles : List Cycle) : AltView :=
  altView env₀.gAltDataref (session hash env₀ (cycleEvents cycles))

theorem cycleView_nil :
    cycleView hash env₀ [] = ⟨0, env₀.gAltDataref, env₀.gAltDataref⟩ := by
  have hwritten : written (started env₀).2 = [] := by
    rw [written, List.filterMap_eq_nil_iff]
    intro e he
    rw [started_snd] at he
    obtain ⟨f, -, rfl⟩ := List.mem_map.mp he
    rfl
  simp only [cycleView, cycleEvents, List.flatMap_nil, session_nil, altView, started_fst,
    lastWritten_of_written_eq_nil _ hwritten, Option.getD_none]

include hhash

/-- Drained clicks change nothing but the dialled target. -/
theorem altView_clicks (pre : List Event) {clicks : List (Datarefs × Click)}
    (hstep : ∀ p ∈ clicks, altStep p.1 = step) (x₀ : ℚ) :
    let v := altView x₀ (session hash env₀ pre)
    altView x₀ (session hash env₀
      (pre ++ clicks.map fun p => .packet p.1 p.2.command.literal)) =
        { v with altSet := dialled step v clicks } := by
  -- induction from the last click: `Alt` is the same before each, and each overwrites `AltSet`
  induction clicks using List.reverseRecOn with
  | nil => simp [dialled]
  | append_singleton clicks p ih =>
    have ih := ih fun q hq => hstep q (List.mem_append_left _ hq)
    obtain ⟨halt, hwritten⟩ := processPacket_click hhash p.1 p.2
      (session hash env₀ (pre ++ clicks.map fun p => .packet p.1 p.2.command.literal)).1
    rw [List.map_append, List.map_singleton, ← List.append_assoc, session_packet]
    have hp := hstep p (by simp)
    simp only [altView, AltView.mk.injEq, exec_fst, exec_snd, halt, lastWritten_append,
      lastWritten_of_written_eq_nil _ hwritten, Option.none_or] at ih ⊢
    refine ⟨ih.1, ?_, ih.2.2⟩
    simp [dialled, hp, ih.1]

/-- **One cycle**: the target of the last click, or else the old one, becomes the altitude, and
is written if it is new. -/
theorem cycleView_concat (cycles : List Cycle) {c : Cycle}
    (hstep : ∀ p ∈ c.clicks, altStep p.1 = step) :
    let v := cycleView hash env₀ cycles
    let x := dialled step v c.clicks
    cycleView hash env₀ (cycles ++ [c]) = ⟨x, x, if v.alt = x then v.dataref else x⟩ := by
  intro v x
  have hclicks := altView_clicks hhash env₀ (cycleEvents cycles) hstep env₀.gAltDataref
  have hevents : cycleEvents (cycles ++ [c]) =
      cycleEvents cycles ++ (c.clicks.map fun p => .packet p.1 p.2.command.literal) ++
        [.update c.env] := by
    simp [cycleEvents, Cycle.events]
  rw [cycleView, hevents, session_update]
  set c' := session hash env₀
    (cycleEvents cycles ++ c.clicks.map fun p => .packet p.1 p.2.command.literal)
  have h₁ : c'.1.alt.alt = v.alt := congrArg AltView.alt hclicks
  have h₂ : c'.1.alt.altSet = x := congrArg AltView.altSet hclicks
  have h₃ : (lastWritten .gAltDataref c'.2).getD env₀.gAltDataref = v.dataref :=
    congrArg AltView.dataref hclicks
  -- from here on the update alone: it moves `AltSet` into `Alt` and writes it if they differ
  obtain ⟨halt, haltSet⟩ := update_alt_alt c.env c'.1
  simp only [altView, exec_fst, exec_snd, halt, haltSet, lastWritten_append, lastWritten_update,
    AltView.mk.injEq]
  rw [h₁, h₂]
  refine ⟨rfl, rfl, ?_⟩
  by_cases hx : v.alt = x
  · rw [if_neg (not_not.mpr hx), if_pos hx, Option.none_or, h₃]
  · rw [if_pos hx, if_neg hx, Option.some_or, Option.getD_some]

end Cycles

/-! ## Batches that lose no click -/

/-- After the update of `cycle`, `Alt` and the dataref have the altitude that all clicks so far
should reach. -/
def AltitudeRight (hash : Bytes → UInt64) (env₀ : Datarefs) (step : ℚ) (pre : List Cycle)
    (cycle : Cycle) : Prop :=
  let x := altitudeAfter step env₀.gAltDataref (pre ++ [cycle])
  let v := cycleView hash env₀ (pre ++ [cycle])
  v.alt = x ∧ v.dataref = x

/-- The clicks before the last one of a cycle cancel out, or the last one goes down to 0 with
them and without them. In the first cycle `Alt` is still 0: there they must add up to that, and
only an altitude of 0 survives a last click to the left. -/
def AltitudeBatched (A₀ step : ℚ) (pre : List Cycle) (cycle : Cycle) : Prop :=
  ∀ ini env last, cycle.clicks = ini ++ [(env, last)] →
    let x := altitudeAfter step A₀ pre
    let y := turned step x ini
    if pre = [] then last = .right ∧ y = 0 ∨ last = .left ∧ A₀ = 0 ∧ y ≤ step
    else y = x ∨ last = .left ∧ x ≤ step ∧ y ≤ step

/-- When a click brings two altitudes to the same one. -/
theorem Click.turn_eq_turn_iff (click : Click) (step x y : ℚ) :
    click.turn step x = click.turn step y ↔ y = x ∨ click = .left ∧ x ≤ step ∧ y ≤ step := by
  cases click with
  | right => simp [Click.turn, eq_comm]
  | left =>
    simp only [Click.turn, true_and]
    -- the clamp at 0 makes two altitudes equal only if it acts on both
    rcases le_or_gt x step with hx | hx
    · rcases le_or_gt y step with hy | hy
      · simp [hx, hy]
      · have hne : y ≠ x := (hx.trans_lt hy).ne'
        simp [max_eq_left (sub_nonpos.mpr hx), max_eq_right (sub_pos.mpr hy).le, hne, hy.not_ge,
          (sub_pos.mpr hy).ne]
    · rcases le_or_gt y step with hy | hy
      · have hne : y ≠ x := (hy.trans_lt hx).ne
        simp [max_eq_right (sub_pos.mpr hx).le, max_eq_left (sub_nonpos.mpr hy), hne, hx.not_ge,
          (sub_pos.mpr hx).ne']
      · simp [max_eq_right (sub_pos.mpr hx).le, max_eq_right (sub_pos.mpr hy).le, hx.not_ge,
          eq_comm]

/-- The condition on a cycle without clicks, and on one with a last click. -/
theorem altitudeBatched_of_nil (A₀ step : ℚ) (pre : List Cycle) {cycle : Cycle}
    (h : cycle.clicks = []) : AltitudeBatched A₀ step pre cycle := by
  intro ini env last hclicks
  simp [h] at hclicks

theorem altitudeBatched_of_concat (A₀ step : ℚ) (pre : List Cycle) {cycle : Cycle}
    {ini : List (Datarefs × Click)} {env : Datarefs} {last : Click}
    (h : cycle.clicks = ini ++ [(env, last)]) :
    AltitudeBatched A₀ step pre cycle ↔
      let x := altitudeAfter step A₀ pre
      let y := turned step x ini
      if pre = [] then last = .right ∧ y = 0 ∨ last = .left ∧ A₀ = 0 ∧ y ≤ step
      else y = x ∨ last = .left ∧ x ≤ step ∧ y ≤ step := by
  constructor
  · intro hb
    exact hb ini env last h
  · intro hb ini' env' last' h'
    -- a list ends in one way only
    obtain ⟨rfl, hlast⟩ := List.append_inj' (h.symm.trans h') rfl
    simp only [List.cons.injEq, Prod.mk.injEq, and_true] at hlast
    obtain ⟨rfl, rfl⟩ := hlast
    exact hb

/-- A cycle ends without clicks, or with a last one. -/
theorem Cycle.clicks_cases (cycle : Cycle) : cycle.clicks = [] ∨
    ∃ ini env last, cycle.clicks = ini ++ [(env, last)] := by
  rcases List.eq_nil_or_concat cycle.clicks with h | ⟨ini, ⟨env, last⟩, h⟩
  · exact .inl h
  · exact .inr ⟨ini, env, last, h.trans List.concat_eq_append⟩

section Runs

variable {hash : Bytes → UInt64} (hhash : SeparatesLiterals hash) (env₀ : Datarefs) {step : ℚ}

include hhash

/-- The first cycle starts from `Alt = 0` and `AltSet = A₀`. -/
theorem altitudeRight_first {cycle : Cycle} (hstep : ∀ p ∈ cycle.clicks, altStep p.1 = step) :
    AltitudeRight hash env₀ step [] cycle ↔
      AltitudeBatched env₀.gAltDataref step [] cycle := by
  have hview := cycleView_concat hhash env₀ [] hstep
  rw [cycleView_nil] at hview
  simp only [AltitudeRight, hview, altitudeAfter_concat]
  rcases cycle.clicks_cases with hclicks | ⟨ini, env, last, hclicks⟩
  · refine iff_of_true ?_ (altitudeBatched_of_nil _ _ _ hclicks)
    simp [hclicks, dialled, altitudeAfter, turned]
  · have hpos : 0 < step := by
      rw [← hstep (env, last) (by simp [hclicks])]
      exact altStep_pos env
    rw [altitudeBatched_of_concat _ _ _ hclicks]
    simp only [hclicks, turned_concat, dialled, List.getLast?_append, List.getLast?_singleton,
      Option.some_or, altitudeAfter, List.flatMap_nil, if_true]
    set y := turned step (turned step env₀.gAltDataref []) ini
    -- the handlers compute from `Alt = 0`, whatever the clicks before the last one have dialled
    cases last with
    | right =>
      have hturn : Click.right.turn step 0 = step := by simp [Click.turn]
      rw [hturn, if_neg hpos.ne, and_self, Click.turn]
      simp [eq_comm]
    | left =>
      have hturn : Click.left.turn step 0 = 0 := by simp [Click.turn, hpos.le]
      rw [hturn, if_pos rfl, Click.turn]
      simp only [reduceCtorEq, false_and, false_or, true_and]
      rw [eq_comm, max_eq_left_iff, sub_nonpos]
      constructor
      · rintro ⟨hy, h⟩
        exact ⟨h.trans (max_eq_left (sub_nonpos.mpr hy)), hy⟩
      · rintro ⟨h, hy⟩
        exact ⟨hy, h.trans (max_eq_left (sub_nonpos.mpr hy)).symm⟩

/-- A later cycle starts from the altitude that the last update left. -/
theorem altitudeRight_later {pre : List Cycle} {cycle : Cycle} (hpre : pre ≠ []) {x : ℚ}
    (hx : altitudeAfter step env₀.gAltDataref pre = x)
    (hview : cycleView hash env₀ pre = ⟨x, x, x⟩)
    (hstep : ∀ p ∈ cycle.clicks, altStep p.1 = step) :
    AltitudeRight hash env₀ step pre cycle ↔
      AltitudeBatched env₀.gAltDataref step pre cycle := by
  have hnext : ∀ z, dialled step ⟨x, x, x⟩ cycle.clicks = z →
      cycleView hash env₀ (pre ++ [cycle]) = ⟨z, z, z⟩ := by
    rintro z rfl
    rw [cycleView_concat hhash env₀ pre hstep, hview]
    -- if the target is the old altitude nothing is written, and the dataref has it already
    by_cases h : x = dialled step ⟨x, x, x⟩ cycle.clicks
    · rw [if_pos h, ← h]
    · rw [if_neg h]
  simp only [AltitudeRight, hnext _ rfl, altitudeAfter_concat, hx, and_self]
  rcases cycle.clicks_cases with hclicks | ⟨ini, env, last, hclicks⟩
  · refine iff_of_true ?_ (altitudeBatched_of_nil _ _ _ hclicks)
    simp [hclicks, dialled, turned]
  · rw [altitudeBatched_of_concat _ _ _ hclicks]
    simp only [hclicks, turned_concat, dialled, List.getLast?_append, List.getLast?_singleton,
      Option.some_or, if_neg hpre, hx]
    exact last.turn_eq_turn_iff step x _

/-- After a cycle in which no click is lost, `Alt`, `AltSet` and the dataref agree. -/
theorem AltitudeRight.cycleView_eq {pre : List Cycle} {cycle : Cycle}
    (hstep : ∀ p ∈ cycle.clicks, altStep p.1 = step)
    (h : AltitudeRight hash env₀ step pre cycle) :
    let x := altitudeAfter step env₀.gAltDataref (pre ++ [cycle])
    cycleView hash env₀ (pre ++ [cycle]) = ⟨x, x, x⟩ := by
  obtain ⟨halt, hdataref⟩ := h
  have hview := cycleView_concat hhash env₀ pre hstep
  have haltSet : (cycleView hash env₀ (pre ++ [cycle])).altSet =
      (cycleView hash env₀ (pre ++ [cycle])).alt := by
    rw [hview]
  exact AltView.ext halt (haltSet.trans halt) hdataref

/-- **Clicks of the altitude knob**: no click is lost in any cycle of a run if and only if, in
each, the clicks before the last one make no difference. The altitudes are rationals here, and
their sums are exact. -/
theorem altitudeRight_iff {cycles : List Cycle}
    (hstep : ∀ cycle ∈ cycles, ∀ p ∈ cycle.clicks, altStep p.1 = step) :
    Along (AltitudeRight hash env₀ step) cycles ↔
      Along (AltitudeBatched env₀.gAltDataref step) cycles := by
  have hmem : ∀ {pre : List Cycle} {c : Cycle}, pre ++ [c] <+: cycles → c ∈ cycles :=
    fun h => h.subset (by simp)
  -- after the first cycle, all three altitudes are the one that the clicks should reach
  apply along_iff (I := fun pre => pre ≠ [] →
    let x := altitudeAfter step env₀.gAltDataref pre
    cycleView hash env₀ pre = ⟨x, x, x⟩) (fun h => absurd rfl h)
  · intro pre c hc hI
    by_cases hpre : pre = []
    · subst hpre
      exact altitudeRight_first hhash env₀ (hstep c (hmem hc))
    · exact altitudeRight_later hhash env₀ hpre rfl (hI hpre) (hstep c (hmem hc))
  · intro pre c hc _ hright _
    exact hright.cycleView_eq hhash env₀ (hstep c (hmem hc))

end Runs

/-- One click in a cycle is not lost. -/
theorem altitudeRight_single_click :
    Along (AltitudeRight fnv1a { Datarefs.zero with gAltDataref := 5000 } 100)
      ([] ++ [⟨[], .zero⟩] ++ [⟨[(.zero, .right)], .zero⟩]) := by
  refine (altitudeRight_iff separatesLiterals_fnv1a _ (by simp [altStep, Datarefs.zero])).mpr ?_
  rw [along_concat, along_concat]
  refine ⟨⟨along_nil _, altitudeBatched_of_nil _ _ _ rfl⟩, ?_⟩
  have hclicks : [(Datarefs.zero, Click.right)] = [] ++ [(.zero, .right)] := rfl
  rw [altitudeBatched_of_concat _ _ _ hclicks]
  simp [turned]

/-- Two clicks in one cycle move the altitude by one step only. -/
theorem altitudeRight_double_click :
    ¬ ∀ (hash : Bytes → UInt64) (env₀ : Datarefs) (step : ℚ) (cycles : List Cycle),
      SeparatesLiterals hash → 0 ≤ env₀.gAltDataref →
      (∀ cycle ∈ cycles, ∀ p ∈ cycle.clicks, altStep p.1 = step) →
      Along (AltitudeRight hash env₀ step) cycles := by
  intro h
  -- the first cycle has no click and brings `Alt` to 5000; the second has two clicks up
  let env₀ : Datarefs := { Datarefs.zero with gAltDataref := 5000 }
  let idle : Cycle := ⟨[], .zero⟩
  let double : Cycle := ⟨[(.zero, .right), (.zero, .right)], .zero⟩
  have hstep : ∀ c ∈ [idle, double], ∀ p ∈ c.clicks, altStep p.1 = 100 := by
    simp [idle, double, altStep, Datarefs.zero]
  have hright := (h fnv1a env₀ 100 [idle, double] separatesLiterals_fnv1a (by simp [env₀])
    hstep [idle] double List.prefix_rfl).1
  have hidle := cycleView_concat separatesLiterals_fnv1a env₀ [] (hstep idle (by simp))
  have hdouble := cycleView_concat separatesLiterals_fnv1a env₀ [idle] (hstep double (by simp))
  rw [cycleView_nil] at hidle
  rw [List.nil_append] at hidle
  rw [hdouble, hidle] at hright
  norm_num [env₀, idle, double, dialled, altitudeAfter, turned, Click.turn] at hright

end SkalarkiFcu
