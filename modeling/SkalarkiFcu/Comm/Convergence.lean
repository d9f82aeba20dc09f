import SkalarkiFcu.Quiescence
import SkalarkiFcu.Comm.Liveness
import SkalarkiFcu.Comm.LastSent

/-!
# Coming to rest

When the panel is left alone and the simulator keeps its readings, a fair execution comes to rest:
from some time on the plugin does not change, everything has been sent, and the last messages
follow the readings. The readings of the target datarefs are free, since the plugin itself
writes them.

## Architecture

- **Still surroundings**: `Still`
- **No more packets**: `Still.handled_const`
- **At rest**: `SystemState.AtRest`, reached by `eventually_atRest` and kept by `Running.rests`
- **Convergence**: `comes_to_rest`
-/

namespace SkalarkiFcu

open LittleEndian Reactive TransitionSystem

/-! ## Still surroundings -/

/-- From the time `N` on, the panel sends nothing, and the callbacks read `env`. -/
structure Still {hash : Bytes → UInt64} (E : Execution (SystemAction.step hash)) (env : Datarefs)
    (N : ℕ) : Prop where
  panel : ∀ n, N ≤ n → ∀ f, E.action n ≠ some (.send f)
  readings : ∀ n, N ≤ n → ∀ env', E.action n = some (.callback env') → env.Agree env'

theorem LastFrames.agree {env env' : Datarefs} {messages : List Bytes} {es : List Effect}
    (h : LastFrames messages env es) (henv : env.Agree env') : LastFrames messages env' es := by
  obtain ⟨alt, spd, hdg, rfl⟩ := henv
  exact ⟨h.annunciator, h.spdDot, h.alt⟩

/-! ## No more packets -/

namespace ReceiveState

variable {hash : Bytes → UInt64} {s t : ReceiveState}

/-- Only a processed packet counts. -/
theorem handled_flightLoopStep (h : (receiveSystem hash).Reachable s) (env : Datarefs) :
    (∃ m, s.flightLoop = .process m ∧ (s.flightLoopStep hash env).handled = s.handled + 1) ∨
    ((∀ m, s.flightLoop ≠ .process m) ∧ (s.flightLoopStep hash env).handled = s.handled) := by
  have hcounter := (rxMessageCount_eq h).1
  rcases flightLoopStep_cases hash env s (receiveSystem_inv h).queue_pos with
    ⟨hpc, -, heq⟩ | ⟨hpc, -, heq⟩ | ⟨m, rest, hpc, -, heq⟩ | ⟨hpc, -, heq⟩ | ⟨m, hpc, heq⟩ |
    ⟨hpc, heq⟩
  · refine .inr ⟨by simp [hpc], ?_⟩
    rw [heq, handled, exec_fst, initDatarefs_fst]
    rfl
  · exact .inr ⟨by simp [hpc], by rw [heq]; rfl⟩
  · exact .inr ⟨by simp [hpc], by rw [heq]; rfl⟩
  · exact .inr ⟨by simp [hpc], by rw [heq]; rfl⟩
  · refine .inl ⟨m, hpc, ?_⟩
    -- `ProcessPacket` counts the packet first
    rw [heq, handled, exec_fst, processPacket_packetCounter, hcounter]
    rfl
  · refine .inr ⟨by simp [hpc], ?_⟩
    rw [heq, handled, exec_fst]
    simp [update, handled]

/-- A step that processes no packet does not start from one. -/
theorem not_process_of_handled_eq (h : (receiveSystem hash).Reachable s) {env : Datarefs}
    (hsame : (s.flightLoopStep hash env).handled = s.handled) (m : SkalarkiMessage) :
    s.flightLoop ≠ .process m := by
  rcases handled_flightLoopStep h env with ⟨-, -, hcount⟩ | ⟨hne, -⟩
  · omega
  · exact hne m

/-- Each processed packet had at least one byte. -/
theorem handled_le (h : (receiveSystem hash).Reachable s) :
    s.handled ≤ s.panelBytes.length := by
  have hinv := receiveSystem_inv h
  have hchunks : s.chunks.length ≤ s.received.length := by
    -- each chunk has at least one byte, so that there are no more chunks than bytes
    have hpos : ∀ n ∈ s.chunks.map fun m => m.msg.length, 1 ≤ n := by
      intro n hn
      obtain ⟨m, hm, rfl⟩ := List.mem_map.mp hn
      exact hinv.chunks_pos m hm
    have hsum := List.length_le_sum_of_one_le _ hpos
    rwa [List.length_map, ← Function.comp_def, ← List.map_map, ← List.length_flatten] at hsum
  have hbytes : s.received.length ≤ s.panelBytes.length := by
    rw [panelBytes, ← hinv.bytes, List.length_append]
    exact Nat.le_add_right _ _
  have hcount := receiveSystem_chunks_length h
  have hrx := (rxMessageCount_eq h).2
  omega

end ReceiveState

/-- Only the panel adds to its frames. -/
theorem SystemAction.frames_of_receive {hash : Bytes → UInt64} {s t : ReceiveState}
    {a : SystemAction} {b : ReceiveAction} (hb : a.receive? = some b) (ha : ∀ f, a ≠ .send f)
    (h : b.step hash s = some t) : t.frames = s.frames := by
  cases a with
  | send f => exact absurd rfl (ha f)
  | recv n =>
    obtain rfl := Option.some.inj hb
    obtain ⟨m, rest, -, -, -, rfl⟩ := ReceiveState.recv_cases h
    rfl
  | recvFails =>
    obtain rfl := Option.some.inj hb
    obtain ⟨-, rfl⟩ := ReceiveState.recvFails_cases h
    rfl
  | receiveThread =>
    obtain rfl := Option.some.inj hb
    rcases ReceiveState.receiveThread_cases h with ⟨-, pc, -, rfl⟩ | ⟨m, -, rfl⟩ <;> rfl
  | _ => cases hb

section Still

variable {hash : Bytes → UInt64} {E : Execution (SystemAction.step hash)} {env : Datarefs} {N : ℕ}

/-- Along an execution, the processed packets only get more. -/
theorem Running.handled_mono (hE : Running E) : Monotone fun n => (E.state n).receive.handled := by
  refine monotone_nat_of_le_succ fun n => ?_
  rcases E.next_cases n with ⟨-, heq⟩ | ⟨a, -, hstep⟩
  · rw [heq]
  · rcases a.running_cases hstep (hE.running n) (hE.running (n + 1)) with
      ⟨b, r, hb, hr, heq⟩ | ⟨-, u, -, heq⟩ | ⟨env', f, rest, -, -, heq⟩ | ⟨env', -, -, heq⟩
    · rw [heq]
      simp only [ReceiveState.handled, (ReceiveAction.receive_keeps hb hr).1, le_refl]
    · rw [heq]
    · rw [heq]
    · rw [heq]
      -- of all steps, only those of the flight loop can process a packet
      rcases ReceiveState.handled_flightLoopStep (hE.inv n).receive env' with
        ⟨m, -, hcount⟩ | ⟨-, hcount⟩ <;> simp [hcount]

/-- The panel has sent its last frame. -/
theorem Still.frames_eq (hE : Running E) (hstill : Still E env N) {n : ℕ} (hn : N ≤ n) :
    (E.state n).receive.frames = (E.state N).receive.frames := by
  induction n, hn using Nat.le_induction with
  | base => rfl
  | succ n hn ih =>
    rcases E.next_cases n with ⟨-, heq⟩ | ⟨a, htaken, hstep⟩
    · rw [heq, ih]
    · rcases a.running_cases hstep (hE.running n) (hE.running (n + 1)) with
        ⟨b, r, hb, hr, heq⟩ | ⟨-, u, -, heq⟩ | ⟨env', f, rest, -, -, heq⟩ | ⟨env', -, -, heq⟩
      · rw [heq, ← ih]
        -- the action is not the `send` of the panel, which has fallen silent
        refine SystemAction.frames_of_receive hb (fun f hf => ?_) hr
        exact hstill.panel n hn f (htaken.trans (congrArg some hf))
      · rw [heq, ih]
      · rw [heq, ih]
      · rw [heq, ← ih]
        exact ((E.state n).receive.flightLoopStep_keeps hash env').1

/-- From some time on, no more packet is processed. -/
theorem Still.handled_const (hE : Running E) (hstill : Still E env N) :
    ∃ M, N ≤ M ∧ ∀ n, M ≤ n → (E.state n).receive.handled = (E.state M).receive.handled := by
  -- every packet has a byte of the panel, which sends no more
  have hbound : ∀ n, (E.state (N + n)).receive.handled ≤
      (E.state N).receive.panelBytes.length := by
    intro n
    have hle := ReceiveState.handled_le (hE.inv (N + n)).receive
    rwa [ReceiveState.panelBytes, hstill.frames_eq hE (Nat.le_add_right N n)] at hle
  obtain ⟨m, hm⟩ := Execution.exists_const
    (fun _ _ hle => hE.handled_mono (Nat.add_le_add_left hle N)) hbound
  refine ⟨N + m, Nat.le_add_right N m, fun n hn => ?_⟩
  obtain ⟨k, rfl⟩ := Nat.exists_eq_add_of_le hn
  rw [Nat.add_assoc]
  exact hm (m + k) (Nat.le_add_right m k)

end Still

/-! ## At rest -/

/-- The flight loop is between two calls, and the last event of the run was an update under these
readings. -/
structure SystemState.AtRest (hash : Bytes → UInt64) (env : Datarefs) (s : SystemState) : Prop where
  idle : s.receive.flightLoop = .idle
  initialized : s.receive.datarefsInitialized = true
  updated : ∃ env₀ pre env', env.Agree env' ∧
    s.receive.config = session hash env₀ (pre ++ [.update env'])

/-- How many steps the main thread still takes up to a packet or an update, with the frames that
it has to push in between. -/
def ReceiveState.updateRank (s : ReceiveState) : ℕ :=
  match s.flightLoop with
  | .idle => 3
  | .pop => 1
  | .process _ => 0
  | .update => 0

/-- The flight loop goes on to a packet or to an update. -/
theorem ReceiveState.updateRank_flightLoopStep {hash : Bytes → UInt64} {s : ReceiveState}
    (h : (receiveSystem hash).Reachable s) (hprocess : ∀ m, s.flightLoop ≠ .process m)
    (hupdate : s.flightLoop ≠ .update) (env : Datarefs) :
    ((pushes (s.flightLoopStep hash env).config.2).drop (pushes s.config.2).length).length +
      (s.flightLoopStep hash env).updateRank < s.updateRank := by
  rcases flightLoopStep_cases hash env s (receiveSystem_inv h).queue_pos with
    ⟨hpc, -, heq⟩ | ⟨hpc, -, heq⟩ | ⟨m, rest, hpc, -, heq⟩ | ⟨hpc, -, heq⟩ | ⟨m, hpc, -⟩ |
    ⟨hpc, -⟩
  · have hone := length_pushes_initDatarefs env s.config.1
    rw [heq]
    simp only [exec_snd, pushes_append, List.drop_left, updateRank, hpc]
    omega
  · rw [heq]
    simp [updateRank, hpc]
  · rw [heq]
    simp [updateRank, hpc]
  · rw [heq]
    simp [updateRank, hpc]
  · exact absurd hpc (hprocess m)
  · exact absurd hpc hupdate

section Rest

variable {hash : Bytes → UInt64} {E : Execution (SystemAction.step hash)} {env : Datarefs} {N M : ℕ}

/-- The flight loop comes to an update with no packet in between. -/
theorem eventually_atRest (hE : Running E) (hstill : Still E env N)
    (hcallback : E.Fair fun a => ∃ env, a = .callback env) (hM : N ≤ M)
    (hhandled : ∀ n, M ≤ n → (E.state n).receive.handled = (E.state M).receive.handled) :
    ∃ m, M ≤ m ∧ (E.state m).AtRest hash env := by
  refine hcallback.eventually (fun _ => True) (SystemState.AtRest hash env)
    (fun s => s.pending.length + s.receive.updateRank) ?_ ?_ trivial
  · intro n _ _ _
    refine ⟨.callback .zero, ⟨.zero, rfl⟩, ?_⟩
    cases hpending : (E.state n).pending <;>
      simp [SystemAction.step, SystemState.callback, hE.running n, hpending]
  · intro n a hn htaken hstep _ _
    rcases a.running_cases hstep (hE.running n) (hE.running (n + 1)) with
      ⟨b, r, hb, hr, heq⟩ | ⟨rfl, u, hu, heq⟩ | ⟨env', f, rest, rfl, hpending, heq⟩ |
      ⟨env', rfl, hpending, heq⟩
    · refine .inr ⟨trivial, ?_, ?_⟩
      · rw [heq]
        simp only [ReceiveState.updateRank, (ReceiveAction.receive_keeps hb hr).2.1, le_refl]
      · rintro ⟨env, rfl⟩
        cases hb
    · refine .inr ⟨trivial, by rw [heq], ?_⟩
      rintro ⟨env, henv⟩
      cases henv
    · rw [heq, hpending]
      exact .inr ⟨trivial, by simp, fun _ => by simp⟩
    · have hsame := (hhandled (n + 1) (by omega)).trans (hhandled n hn).symm
      rw [heq] at hsame
      have hprocess := ReceiveState.not_process_of_handled_eq (hE.inv n).receive hsame
      -- the step is the update itself, or it leads on to it
      by_cases hupdate : (E.state n).receive.flightLoop = .update
      · refine .inl ?_
        obtain ⟨done, hruns, -⟩ := receiveSystem_runsTo (hE.inv n).receive
        obtain ⟨hinit, env₀, events, hconfig, -⟩ := hruns.of_busy (by simp [hupdate])
        have hloop : (E.state n).receive.flightLoopStep hash env' = { (E.state n).receive with
            config := exec (update env') (E.state n).receive.config
            flightLoop := .idle } := by
          simp [ReceiveState.flightLoopStep, hupdate]
        rw [heq, hloop]
        refine ⟨rfl, hinit, env₀, events, env', ?_, ?_⟩
        · exact hstill.readings n (hM.trans hn) env' htaken
        · rw [session_update, ← hconfig]
      · have hlt := ReceiveState.updateRank_flightLoopStep (hE.inv n).receive hprocess hupdate env'
        rw [heq, hpending, List.length_nil, Nat.zero_add]
        exact .inr ⟨trivial, hlt.le, fun _ => hlt⟩

/-- At rest, all that the plugin holds agrees with the readings. -/
theorem SystemState.AtRest.settled {s : SystemState} (h : s.AtRest hash env) :
    s.receive.config.1.Settled env := by
  obtain ⟨env₀, pre, env', henv, hconfig⟩ := h.updated
  rw [hconfig, session_update, exec_fst]
  exact (settled_update env' _).agree henv.symm

/-- The plugin stays at rest. -/
theorem rests (hE : Running E) (hstill : Still E env N) {m : ℕ} (hm : N ≤ m)
    (hhandled : ∀ n, m ≤ n → (E.state n).receive.handled = (E.state m).receive.handled)
    (hrest : (E.state m).AtRest hash env) {k : ℕ} (hk : m ≤ k) :
    (E.state k).receive.config = (E.state m).receive.config ∧
      (E.state k).receive.datarefsInitialized = true := by
  induction k, hk using Nat.le_induction with
  | base => exact ⟨rfl, hrest.initialized⟩
  | succ k hk ih =>
    obtain ⟨hconfig, hinit⟩ := ih
    rcases E.next_cases k with ⟨-, heq⟩ | ⟨a, htaken, hstep⟩
    · rw [heq]
      exact ⟨hconfig, hinit⟩
    · rcases a.running_cases hstep (hE.running k) (hE.running (k + 1)) with
        ⟨b, r, hb, hr, heq⟩ | ⟨-, u, -, heq⟩ | ⟨env', f, rest, -, -, heq⟩ | ⟨env', rfl, -, heq⟩
      · obtain ⟨hsame, -, hinit', -⟩ := ReceiveAction.receive_keeps hb hr
        rw [heq]
        exact ⟨hsame.trans hconfig, hinit'.trans hinit⟩
      · rw [heq]
        exact ⟨hconfig, hinit⟩
      · rw [heq]
        exact ⟨hconfig, hinit⟩
      · rw [heq]
        rcases ReceiveState.flightLoopStep_cases hash env' (E.state k).receive
            (receiveSystem_inv (hE.inv k).receive).queue_pos with
          ⟨-, hnot, -⟩ | ⟨-, -, hloop⟩ | ⟨m', rest, -, -, hloop⟩ | ⟨-, -, hloop⟩ | ⟨m', hpc, -⟩ |
          ⟨-, hloop⟩
        · rw [hinit] at hnot
          cases hnot
        · rw [hloop]
          exact ⟨hconfig, hinit⟩
        · rw [hloop]
          exact ⟨hconfig, hinit⟩
        · rw [hloop]
          exact ⟨hconfig, hinit⟩
        · -- a packet would be counted
          have hsame := (hhandled (k + 1) (by omega)).trans (hhandled k hk).symm
          rw [heq] at hsame
          exact absurd hpc (ReceiveState.not_process_of_handled_eq (hE.inv k).receive hsame m')
        · -- the update finds nothing to do
          have hagree := hstill.readings k (hm.trans hk) env' htaken
          have hquiet : update env' (E.state m).receive.config.1 =
              ((E.state m).receive.config.1, []) := (hrest.settled.agree hagree).quiet
          rw [hloop]
          refine ⟨?_, hinit⟩
          simp [exec, hconfig, hquiet]

end Rest

/-! ## Convergence -/

theorem TransmitState.length_sent_transmitThread {s t : TransmitState}
    (h : s.transmitThread = some t) : s.sent.length ≤ t.sent.length := by
  rcases transmitThread_cases h with ⟨-, -, rfl⟩ | ⟨-, -, rfl⟩ | ⟨n, -, -, rfl⟩ |
    ⟨msg, rest, -, -, rfl⟩ | ⟨-, -, rfl⟩ <;> simp

section Convergence

variable {hash : Bytes → UInt64} {E : Execution (SystemAction.step hash)} {env : Datarefs} {N : ℕ}

/-- What has been sent stays sent. -/
theorem Running.sent_mono (hE : Running E) :
    Monotone fun n => (E.state n).transmit.sent.length := by
  refine monotone_nat_of_le_succ fun n => ?_
  rcases E.next_cases n with ⟨-, heq⟩ | ⟨a, -, hstep⟩
  · rw [heq]
  · rcases a.running_cases hstep (hE.running n) (hE.running (n + 1)) with
      ⟨b, r, -, -, heq⟩ | ⟨-, u, hu, heq⟩ | ⟨env', f, rest, -, hpending, heq⟩ | ⟨env', -, -, heq⟩
    · rw [heq]
    · rw [heq]
      exact TransmitState.length_sent_transmitThread hu
    · have hf : f.Accepted := (hE.inv n).accepted f (by simp [hpending])
      rw [heq, TransmitState.pushMessage_of_accepted hf]
    · rw [heq]

/-- Everything has been sent as soon as that many messages have been sent. -/
theorem Running.delivered (hE : Running E) {n : ℕ}
    (h : (pushes (E.state n).receive.config.2).length ≤ (E.state n).transmit.sent.length) :
    (E.state n).Delivered := by
  have hfifo := congrArg List.length (transmitSystem_inv (hE.inv n).transmit).fifo
  rw [hE.length_pushes] at h
  rw [List.length_append] at hfifo
  exact ⟨List.eq_nil_of_length_eq_zero (by omega), List.eq_nil_of_length_eq_zero (by omega)⟩

/-- From some time on, the plugin is at rest. -/
theorem rests_eventually (hE : Running E) (hstill : Still E env N)
    (hcallback : E.Fair fun a => ∃ env, a = .callback env) :
    ∃ m, N ≤ m ∧ (E.state m).AtRest hash env ∧
      ∀ k, m ≤ k → (E.state k).receive.config = (E.state m).receive.config := by
  obtain ⟨M, hM, hhandled⟩ := hstill.handled_const hE
  obtain ⟨m, hm, hrest⟩ := eventually_atRest hE hstill hcallback hM hhandled
  refine ⟨m, hM.trans hm, hrest, fun k hk => ?_⟩
  refine (rests hE hstill (hM.trans hm) (fun n hn => ?_) hrest hk).1
  rw [hhandled n (hm.trans hn), hhandled m hm]

/-- **Convergence**: when the panel is left alone and the readings do not change, an execution
without `XPluginStop` that is fair to the callbacks and to `TransmitThread`, whose `send` returns,
comes to rest. From some time on, the plugin does not change and agrees with the readings,
everything has been sent, the last messages for the annunciators and for the speed dot follow the
readings, and that for the altitude window has the altitude that was written last. -/
theorem comes_to_rest (hE : Running E) (hstill : Still E env N)
    (hcallback : E.Fair fun a => ∃ env, a = .callback env)
    (hthread : E.Fair (· = .transmitThread)) :
    ∃ m, N ≤ m ∧ (E.state m).receive.config.1.Settled env ∧ ∀ k, m ≤ k →
      (E.state k).receive.config = (E.state m).receive.config ∧ (E.state k).Delivered ∧
        LastFrames (E.state k).messages env (E.state k).receive.config.2 := by
  obtain ⟨m, hm, hrest, hkeeps⟩ := rests_eventually hE hstill hcallback
  -- the frames of the run are sent
  obtain ⟨l, hl, hsent⟩ : ∃ l, m ≤ l ∧ (pushes (E.state m).receive.config.2).length ≤
      (E.state l).transmit.sent.length := by
    cases hlength : (pushes (E.state m).receive.config.2).length with
    | zero => exact ⟨m, le_rfl, Nat.zero_le _⟩
    | succ i =>
      obtain ⟨k, hk, haccepted⟩ := accepted_eventually hE hcallback
        (n := m) (i := i) (by rw [← hE.length_pushes]; omega)
      obtain ⟨l, hl, hsent⟩ := sent_eventually hE hthread haccepted
      exact ⟨l, hk.trans hl, hsent⟩
  refine ⟨l, hm.trans hl, ?_, fun k hk => ⟨?_, ?_⟩⟩
  · rw [hkeeps l hl]
    exact hrest.settled
  · rw [hkeeps k (hl.trans hk), hkeeps l hl]
  · have hdelivered : (E.state k).Delivered := by
      apply hE.delivered
      rw [hkeeps k (hl.trans hk)]
      exact hsent.trans (hE.sent_mono hk)
    refine ⟨hdelivered, ?_⟩
    obtain ⟨env₀, pre, env', henv, hconfig⟩ := hrest.updated
    -- the last event of the run was an update, and all frames have been sent
    rw [(hE.inv k).messages_eq hdelivered, hkeeps k (hl.trans hk), hconfig]
    exact (lastFrames_session hash env₀ pre env').agree henv.symm

/-- In the round robin, the panel sends one frame, and all readings are zero. -/
theorem roundRobin_still (c : Command) (hash : Bytes → UInt64) :
    Still (roundRobinRun c hash) .zero 4 where
  panel n hn f hsend := by
    obtain ⟨hthree, -⟩ : n = 3 ∧ f = c.frame := by
      simpa using roundRobin_action hsend
    omega
  readings n hn env hcallback := by
    obtain rfl : env = .zero := by
      simpa using roundRobin_action hcallback
    exact ⟨_, _, _, rfl⟩

/-- The speed is managed all the time, and from some time on the last message for its dot is the
On frame. -/
theorem comes_to_rest_roundRobin : ∃ m, ∀ k, m ≤ k →
    SentLast ((roundRobinRun .altRight fun _ => 0).state k).messages (.lamp (.dot .spd))
      Dot.spd.onFrame := by
  obtain ⟨m, -, -, hrest⟩ := comes_to_rest (roundRobinRun_running .altRight fun _ => 0)
    (roundRobin_still _ _) (roundRobin_fair_callback _ _) (roundRobin_fair_transmitThread _ _)
  refine ⟨m, fun k hk => ?_⟩
  rw [(hrest k hk).2.2.spdDot]
  rfl

end Convergence

end SkalarkiFcu
