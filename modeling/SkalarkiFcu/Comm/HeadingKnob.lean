import SkalarkiFcu.Comm.Convergence
import SkalarkiFcu.Comm.Presses
import SkalarkiFcu.Writes

/-!
# The heading knob, from the panel to the simulator

A click of the heading knob crosses the whole plugin: the panel sends its frame, the receive
thread queues it, the flight loop dispatches it, and a later update writes the heading that has
been dialled. Once the panel is left alone, the dialled heading is that of the first call, turned
by all clicks together, however they were batched. The simulator has been given its integer part
too, with one exception: a heading with the integer part 0 counts as written from the start, and
where the updates find no other one the simulator keeps the heading that it had.

## Architecture

- **One run**: `hdgSet_session`
- **The first call**: `FirstCall`, and `FirstCall.session`
- **The knob**: `heading_arrives`
-/

namespace SkalarkiFcu

open LittleEndian Reactive TransitionSystem Truncation

/-! ## One run -/

theorem Command.turnHdg_hdgSet (c : Command) (w : HdgWindow) :
    (c.turnHdg w).hdgSet = c.turnHeading w.hdgSet := by
  cases c <;> rfl

section Run

variable (hash : Bytes → UInt64) (env₀ : Datarefs)

/-- The dialled heading is that of the first call, turned by all handlers that have run. -/
theorem hdgSet_session (events : List Event) :
    (session hash env₀ events).1.hdg.hdgSet =
      (invoked (session hash env₀ events).2).foldl (fun x c => c.turnHeading x)
        env₀.gHdgDataref := by
  induction events using history_induction with
  | nil =>
    rw [session_nil, invoked_started, started_fst]
    rfl
  | packet pre env recvbuf ih =>
    rw [session_packet, exec_fst, processPacket_hdg, exec_snd, invoked_append,
      invoked_processPacket]
    cases dispatch hash recvbuf with
    | none =>
      rw [Option.elim_none, Option.toList_none, List.append_nil]
      exact ih
    | some c =>
      rw [Option.elim_some, c.turnHdg_hdgSet, ih, Option.toList_some, List.foldl_append]
      rfl
  | update pre env ih =>
    rw [session_update, exec_fst, update_hdgSet, ih, exec_snd, invoked_append, invoked_update,
      List.append_nil]

end Run

/-! ## The first call -/

section Heading

variable {hash : Bytes → UInt64} {E : Execution (SystemAction.step hash)} {env : Datarefs} {N : ℕ}

/-- The step in which the flight loop reads the datarefs for the first time, as `env₀`. -/
structure FirstCall (E : Execution (SystemAction.step hash)) (env₀ : Datarefs) (n : ℕ) :
    Prop where
  action : E.action n = some (.callback env₀)
  before : (E.state n).receive.datarefsInitialized = false
  after : (E.state (n + 1)).receive.datarefsInitialized = true

/-- Only a step of the flight loop initializes the datarefs. -/
theorem Running.firstCall (hE : Running E) {k : ℕ}
    (h : (E.state k).receive.datarefsInitialized = true) :
    ∃ env₀ n, n < k ∧ FirstCall E env₀ n := by
  induction k with
  | zero =>
    rw [hE.start] at h
    cases h
  | succ k ih =>
    cases hbefore : (E.state k).receive.datarefsInitialized with
    | true =>
      obtain ⟨env₀, n, hn, hfirst⟩ := ih hbefore
      exact ⟨env₀, n, hn.trans (Nat.lt_succ_self k), hfirst⟩
    | false =>
      have hchanged : (E.state (k + 1)).receive.datarefsInitialized ≠
          (E.state k).receive.datarefsInitialized := by
        rw [h, hbefore]
        decide
      rcases E.next_cases k with ⟨-, heq⟩ | ⟨a, htaken, hstep⟩
      · exact absurd (by rw [heq]) hchanged
      · rcases a.running_cases hstep (hE.running k) (hE.running (k + 1)) with
          ⟨b, r, hb, hr, heq⟩ | ⟨-, u, -, heq⟩ | ⟨env, f, rest, -, -, heq⟩ | ⟨env, rfl, -, -⟩
        · -- neither the panel nor the receive thread initializes anything
          refine absurd ?_ hchanged
          rw [heq]
          exact (ReceiveAction.receive_keeps hb hr).2.2.1
        · exact absurd (by rw [heq]) hchanged
        · exact absurd (by rw [heq]) hchanged
        · exact ⟨env, k, Nat.lt_succ_self k, htaken, hbefore, h⟩

/-- A step of the flight loop starts the run, or it goes on with it. -/
theorem ReceiveState.config_flightLoopStep {s : ReceiveState}
    (h : (receiveSystem hash).Reachable s) (env : Datarefs) :
    (s.datarefsInitialized = false ∧ (s.flightLoopStep hash env).config = started env) ∨
    s.datarefsInitialized = true ∧ (s.flightLoopStep hash env).datarefsInitialized = true ∧
      ∃ events, (s.flightLoopStep hash env).config = run (Event.step hash) s.config events := by
  obtain ⟨done, hruns, -⟩ := receiveSystem_runsTo h
  rcases flightLoopStep_cases hash env s (receiveSystem_inv h).queue_pos with
    ⟨hpc, hinit, heq⟩ | ⟨hpc, hinit, heq⟩ | ⟨m, rest, hpc, -, heq⟩ | ⟨hpc, -, heq⟩ |
    ⟨m, hpc, heq⟩ | ⟨hpc, heq⟩
  · rcases hruns with ⟨-, -, -, hconfig⟩ | ⟨hinit', -⟩
    · refine .inl ⟨hinit, ?_⟩
      rw [heq, hconfig]
      rfl
    · rw [hinit] at hinit'
      cases hinit'
  · exact .inr ⟨hinit, by rw [heq]; exact hinit, [], by rw [heq]; rfl⟩
  · have hinit := (hruns.of_busy (by simp [hpc])).1
    exact .inr ⟨hinit, by rw [heq]; exact hinit, [], by rw [heq]; rfl⟩
  · have hinit := (hruns.of_busy (by simp [hpc])).1
    exact .inr ⟨hinit, by rw [heq]; exact hinit, [], by rw [heq]; rfl⟩
  · have hinit := (hruns.of_busy (by simp [hpc])).1
    exact .inr ⟨hinit, by rw [heq]; exact hinit, [.packet env m.msg], by rw [heq]; rfl⟩
  · have hinit := (hruns.of_busy (by simp [hpc])).1
    exact .inr ⟨hinit, by rw [heq]; exact hinit, [.update env], by rw [heq]; rfl⟩

/-- From the first call on, the plugin is in the state of a run that started under its readings. -/
theorem FirstCall.session {env₀ : Datarefs} {n : ℕ} (h : FirstCall E env₀ n) (hE : Running E)
    {k : ℕ} (hk : n < k) : (E.state k).receive.datarefsInitialized = true ∧
      ∃ events, (E.state k).receive.config = session hash env₀ events := by
  induction k, hk using Nat.le_induction with
  | base =>
    refine ⟨h.after, [], ?_⟩
    have hchanged : (E.state (n + 1)).receive.datarefsInitialized ≠
        (E.state n).receive.datarefsInitialized := by
      rw [h.before, h.after]
      decide
    rcases E.next_cases n with ⟨-, heq⟩ | ⟨a, htaken, hstep⟩
    · exact absurd (by rw [heq]) hchanged
    · -- it is the step of the first call, and no push
      obtain rfl : SystemAction.callback env₀ = a := Option.some.inj (h.action.symm.trans htaken)
      obtain ⟨-, ⟨f, rest, -, heq⟩ | ⟨-, heq⟩⟩ := SystemState.callback_cases hstep
      · exact absurd (by rw [heq]) hchanged
      · rcases ReceiveState.config_flightLoopStep (hE.inv n).receive env₀ with
          ⟨-, hconfig⟩ | ⟨hinit, -⟩
        · rw [heq]
          exact hconfig
        · rw [h.before] at hinit
          cases hinit
  | succ k hk ih =>
    obtain ⟨hinit, events, hconfig⟩ := ih
    rcases E.next_cases k with ⟨-, heq⟩ | ⟨a, -, hstep⟩
    · rw [heq]
      exact ⟨hinit, events, hconfig⟩
    · rcases a.running_cases hstep (hE.running k) (hE.running (k + 1)) with
        ⟨b, r, hb, hr, heq⟩ | ⟨-, u, -, heq⟩ | ⟨env, f, rest, -, -, heq⟩ | ⟨env, -, -, heq⟩
      · obtain ⟨hsame, -, hinit', -⟩ := ReceiveAction.receive_keeps hb hr
        rw [heq]
        exact ⟨hinit'.trans hinit, events, hsame.trans hconfig⟩
      · rw [heq]
        exact ⟨hinit, events, hconfig⟩
      · rw [heq]
        exact ⟨hinit, events, hconfig⟩
      · -- the run goes on with what the flight loop has done
        rcases ReceiveState.config_flightLoopStep (hE.inv k).receive env with
          ⟨hnot, -⟩ | ⟨-, hinit', more, hmore⟩
        · rw [hinit] at hnot
          cases hnot
        · rw [heq]
          refine ⟨hinit', events ++ more, hmore.trans ?_⟩
          rw [hconfig]
          exact (run_append ..).symm

/-! ## The knob -/

/-- **The heading knob**: when the panel is left alone and the readings do not change, in an
execution without `XPluginStop` and without a failing `recv` that is fair to `ReceiveThread` and
to the callbacks, with whole frames and no colliding literals, the run is complete from some time
on: the handlers of all presses have run, in order, and the dialled heading is that of the first
call, turned by every click. The simulator, starting from the heading of the first call, has been
given its integer part exactly if that heading had the integer part 0, or if some update has found
a dialled heading with another one. -/
theorem heading_arrives (hE : Running E) (hstill : Still E env N)
    (hhash : SeparatesLiterals hash) (hok : ∀ n, E.action n ≠ some .recvFails)
    (hreceive : E.Fair SystemAction.Receives)
    (hcallback : E.Fair fun a => ∃ env, a = .callback env)
    (hwhole : ∀ n, (E.state n).receive.Whole) {presses : List Command}
    (hpresses : (E.state N).receive.frames = presses.map Command.frame) :
    ∃ env₀ n₀ events m, FirstCall E env₀ n₀ ∧ N ≤ m ∧
      (∀ k, m ≤ k → (E.state k).receive.config = session hash env₀ events) ∧
      let s := session hash env₀ events
      let turned := presses.foldl (fun x c => c.turnHeading x) env₀.gHdgDataref
      invoked s.2 = presses ∧ s.1.hdg.hdgSet = turned ∧
        (trunc (targetAfter .gHdgDataref env₀.gHdgDataref s.2) = trunc turned ↔
          trunc env₀.gHdgDataref = 0 ∨ ∃ x ∈ foundHeadings hash env₀ events, trunc x ≠ 0) := by
  obtain ⟨l, hl, hrest, hkeeps⟩ := rests_eventually hE hstill hcallback
  obtain ⟨m, hm, hhandled⟩ :=
    presses_prefix_eventually hE hhash hok hreceive hcallback hwhole hpresses
  obtain ⟨env₀, n₀, hn₀, hfirst⟩ := hE.firstCall hrest.initialized
  obtain ⟨-, events, hconfig⟩ := hfirst.session hE hn₀
  have hlk := le_max_left l m
  have hmk := le_max_right l m
  -- the handlers that have run are those of all presses
  have hinvoked : invoked (session hash env₀ events).2 = presses := by
    have hframes : (E.state (max l m)).receive.frames = presses.map Command.frame := by
      rw [hstill.frames_eq hE (hl.trans hlk), hpresses]
    have hbound := invoked_prefix_presses (hE.inv _).receive hhash (hwhole _) hframes
    have hlater := (hE.extends hmk).effects.filterMap Effect.command?
    rw [← hconfig, ← hkeeps _ hlk]
    exact hbound.eq_of_length_le (hhandled.trans hlater).length_le
  have hturned := hdgSet_session hash env₀ events
  rw [hinvoked] at hturned
  -- at rest, the plugin holds the integer part that has been dialled
  have hsettled := hrest.settled.hdg
  rw [hconfig] at hsettled
  refine ⟨env₀, n₀, events, max l m, hfirst, hl.trans hlk, fun k hk => ?_, hinvoked, hturned, ?_⟩
  · rw [hkeeps k (hlk.trans hk), hconfig]
  · rw [← hturned]
    exact trunc_targetAfter_iff hash env₀ events hsettled.symm

/-- One click to the right, from a heading of 0. -/
theorem heading_arrives_one : ∃ m, ∀ k, m ≤ k →
    trunc (targetAfter .gHdgDataref 0
      ((roundRobinRun .hdgRight fnv1a).state k).receive.config.2) = 1 := by
  obtain ⟨env₀, n₀, events, m, hfirst, -, hconfig, -, -, hiff⟩ := heading_arrives
    (roundRobinRun_running .hdgRight fnv1a) (roundRobin_still _ _) separatesLiterals_fnv1a
    (roundRobin_recv_ok _ _) (roundRobin_fair_receives _ _) (roundRobin_fair_callback _ _)
    ((roundRobin_paced _).whole (roundRobinRun_running _ _))
    (show _ = [Command.hdgRight].map Command.frame from rfl)
  obtain rfl : env₀ = .zero := by
    simpa using roundRobin_action hfirst.action
  refine ⟨m, fun k hk => ?_⟩
  rw [hconfig k hk]
  have htrunc : trunc (0 : ℚ) = 0 ∧ trunc (1 : ℚ) = 1 := ⟨trunc_intCast 0, trunc_intCast 1⟩
  refine (hiff.mpr (.inl htrunc.1)).trans ?_
  norm_num [Command.turnHeading, Datarefs.zero, htrunc.2]

end Heading

end SkalarkiFcu
