import SkalarkiFcu.Comm.Liveness

/-!
# Every press is carried out

Nothing in the receive path puts a frame together again, so what a press of a button comes to is
settled by what `recv` returns. Here the network is kind: `recv` returns whole frames, as it does
as long as the panel sends a frame only after the last one has been read (`Paced`). Then the
handlers that have run are always those of the presses, in order and without repetitions, and in
a fair execution the handler of every press runs.

## Architecture

- **Handlers of a run**: `invoked_session`
- **Whole frames**: `ReceiveState.Whole`, and `Paced.whole`
- **Presses**: `every_press_handled`
-/

namespace SkalarkiFcu

open LittleEndian Reactive TransitionSystem

/-- A complete frame has at least the bytes of its word. -/
theorem DeviceFrame.bytes_ne_nil (f : DeviceFrame) : f.bytes ≠ [] := by
  intro hnil
  have hcomplete := f.complete
  rw [hnil] at hcomplete
  cases hcomplete

/-! ## Handlers of a run -/

theorem invoked_started (env₀ : Datarefs) : invoked (started env₀).2 = [] := by
  rw [started, exec_snd, exec_snd, invoked_append, invoked_append, invoked_init,
    invoked_initDatarefs]
  rfl

/-- A run has invoked what its packets are dispatched to. -/
theorem invoked_session (hash : Bytes → UInt64) (env₀ : Datarefs) (events : List Event) :
    invoked (session hash env₀ events).2 = (packets events).filterMap (dispatch hash) := by
  induction events using history_induction with
  | nil => exact invoked_started env₀
  | packet pre env recvbuf ih =>
    rw [session_packet, exec_snd, invoked_append, invoked_processPacket, packets_packet,
      List.filterMap_append, ih]
    cases h : dispatch hash recvbuf <;> simp [h]
  | update pre env ih =>
    rw [session_update, exec_snd, invoked_append, invoked_update, List.append_nil, packets_update,
      ih]

namespace ReceiveState

variable {hash : Bytes → UInt64} {s : ReceiveState}

theorem RunsTo.invoked_eq {done : List SkalarkiMessage} (h : s.RunsTo hash done) :
    invoked s.config.2 = (done.map SkalarkiMessage.msg).filterMap (dispatch hash) := by
  rcases h with ⟨-, -, rfl, hconfig⟩ | ⟨-, env₀, events, hconfig, hpackets⟩
  · rw [hconfig, exec_snd, invoked_append, invoked_init]
    rfl
  · rw [hconfig, invoked_session, hpackets]

/-! ## Whole frames -/

/-- Every `recv` has returned one whole frame. -/
def Whole (s : ReceiveState) : Prop :=
  s.chunks.map SkalarkiMessage.msg <+: s.frames.map DeviceFrame.bytes

/-- The chunks that hold the bytes of some frames are these frames. -/
theorem Whole.frames_read {t : ReceiveState} (h : t.Whole) (hframes : s.frames <+: t.frames)
    (hbytes : s.panelBytes <+: t.received) :
    s.frames.map DeviceFrame.bytes <+: t.chunks.map SkalarkiMessage.msg := by
  rcases List.prefix_or_prefix_of_prefix h (hframes.map DeviceFrame.bytes) with hshort | hlong
  · -- a frame more would have bytes that the chunks do not have
    obtain ⟨rest, hrest⟩ := hshort
    have hlength := hbytes.length_le
    rw [panelBytes, ← hrest, List.flatten_append, List.length_append, received] at hlength
    have hnil : rest.flatten = [] := List.eq_nil_of_length_eq_zero (by omega)
    have hempty : rest = [] := by
      refine List.eq_nil_iff_forall_not_mem.mpr fun b hb => ?_
      have hmem : b ∈ s.frames.map DeviceFrame.bytes := by
        rw [← hrest]
        exact List.mem_append_right _ hb
      obtain ⟨f, -, rfl⟩ := List.mem_map.mp hmem
      exact f.bytes_ne_nil (List.flatten_eq_nil_iff.mp hnil f.bytes hb)
    rw [← hrest, hempty, List.append_nil]
  · exact hlong

/-- A `recv` whose length covers the stream returns all of it. -/
theorem recv_all {t : ReceiveState} {n : ℕ} (h : s.recv n = some t) (hn : s.stream.length ≤ n) :
    t.frames = s.frames ∧
      t.chunks.map SkalarkiMessage.msg = s.chunks.map SkalarkiMessage.msg ++ [s.stream] := by
  cases hpc : s.thread with
  | recv =>
    simp only [recv, hpc] at h
    split at h
    case isFalse => cases h
    case isTrue =>
      obtain rfl := Option.some.inj h
      refine ⟨rfl, ?_⟩
      -- the message is the whole stream
      simp [List.take_of_length_le hn]
  | test => simp [recv, hpc] at h
  | push m => simp [recv, hpc] at h
  | exited => simp [recv, hpc] at h

/-- All frames but at most one, which fits into the buffer of `recv`, have been read, each by one
`recv`. -/
def CaughtUp (s : ReceiveState) : Prop :=
  s.frames.map DeviceFrame.bytes = s.chunks.map SkalarkiMessage.msg ∨
  ∃ f : DeviceFrame, f.bytes.length ≤ skalarkiMessageMaxLength ∧
    s.frames.map DeviceFrame.bytes = s.chunks.map SkalarkiMessage.msg ++ [f.bytes]

theorem CaughtUp.whole (h : s.CaughtUp) : s.Whole := by
  rcases h with heq | ⟨f, -, heq⟩
  · rw [Whole, heq]
  · rw [Whole, heq]
    exact List.prefix_append _ _

/-- The stream is empty, or the frame that has not been read. -/
theorem CaughtUp.stream_cases (hinv : s.Inv hash) (h : s.CaughtUp) :
    (s.frames.map DeviceFrame.bytes = s.chunks.map SkalarkiMessage.msg ∧ s.stream = []) ∨
    ∃ f : DeviceFrame, f.bytes.length ≤ skalarkiMessageMaxLength ∧ s.stream = f.bytes ∧
      s.frames.map DeviceFrame.bytes = s.chunks.map SkalarkiMessage.msg ++ [f.bytes] := by
  have hbytes := hinv.bytes
  rcases h with heq | ⟨f, hf, heq⟩
  · rw [heq, List.append_right_eq_self] at hbytes
    exact .inl ⟨heq, hbytes⟩
  · rw [heq, List.flatten_append, List.flatten_singleton] at hbytes
    exact .inr ⟨f, hf, List.append_cancel_left hbytes, heq⟩

end ReceiveState

section Presses

variable {hash : Bytes → UInt64} {E : Execution (SystemAction.step hash)}

/-- The panel sends a frame only when all others have been read, and `recv` returns as much as
it can. -/
structure Paced (E : Execution (SystemAction.step hash)) : Prop where
  send : ∀ n f, E.action n = some (.send f) →
    (E.state n).receive.stream = [] ∧ f.bytes.length ≤ skalarkiMessageMaxLength
  recv : ∀ n k, E.action n = some (.recv k) →
    min skalarkiMessageMaxLength (E.state n).receive.stream.length ≤ k

/-- A step keeps to the pace. -/
theorem Paced.caughtUp_step (hpaced : Paced E) {n : ℕ} {a : SystemAction} {b : ReceiveAction}
    {r : ReceiveState} (htaken : E.action n = some a) (hb : a.receive? = some b)
    (hr : b.step hash (E.state n).receive = some r) (hinv : (E.state n).receive.Inv hash)
    (h : (E.state n).receive.CaughtUp) : r.CaughtUp := by
  cases a with
  | send f =>
    obtain rfl := Option.some.inj hb
    obtain rfl := Option.some.inj hr
    obtain ⟨hempty, hf⟩ := hpaced.send n f htaken
    rcases h.stream_cases hinv with ⟨heq, -⟩ | ⟨g, -, hstream, -⟩
    · -- the stream was empty: the new frame is the only one that has not been read
      refine .inr ⟨f, hf, ?_⟩
      simp only [ReceiveState.send, List.map_append, List.map_singleton, heq]
    · exact absurd (hstream.symm.trans hempty) g.bytes_ne_nil
  | recv k =>
    obtain rfl := Option.some.inj hb
    rcases h.stream_cases hinv with ⟨-, hempty⟩ | ⟨f, hf, hstream, heq⟩
    · -- there is nothing to read
      obtain ⟨m, rest, -, hpos, hcut, -⟩ := ReceiveState.recv_cases hr
      rw [hempty] at hcut
      rw [(List.append_eq_nil_iff.mp hcut.symm).1] at hpos
      exact absurd hpos (Nat.lt_irrefl 0)
    · -- the stream holds one frame, and all of it is read
      have hk := hpaced.recv n k htaken
      rw [hstream, min_eq_right hf] at hk
      obtain ⟨hframes, hchunks⟩ := ReceiveState.recv_all hr (hstream ▸ hk)
      refine .inl ?_
      rw [hframes, hchunks, heq, hstream]
  | recvFails =>
    obtain rfl := Option.some.inj hb
    obtain ⟨-, rfl⟩ := ReceiveState.recvFails_cases hr
    exact h
  | receiveThread =>
    obtain rfl := Option.some.inj hb
    rcases ReceiveState.receiveThread_cases hr with ⟨-, pc, -, rfl⟩ | ⟨m, -, rfl⟩ <;> exact h
  | _ => cases hb

/-- At this pace, every `recv` returns a whole frame. -/
theorem Paced.whole (hpaced : Paced E) (hE : Running E) (n : ℕ) : (E.state n).receive.Whole := by
  suffices h : (E.state n).receive.CaughtUp from h.whole
  induction n with
  | zero =>
    rw [hE.start]
    exact .inl rfl
  | succ n ih =>
    rcases E.next_cases n with ⟨-, heq⟩ | ⟨a, htaken, hstep⟩
    · rwa [heq]
    · rcases a.running_cases hstep (hE.running n) (hE.running (n + 1)) with
        ⟨b, r, hb, hr, heq⟩ | ⟨-, u, -, heq⟩ | ⟨env, f, rest, -, -, heq⟩ | ⟨env, -, -, heq⟩
      · rw [heq]
        exact hpaced.caughtUp_step htaken hb hr (receiveSystem_inv (hE.inv n).receive) ih
      · rwa [heq]
      · rwa [heq]
      · -- the flight loop touches neither the frames nor the chunks
        obtain ⟨hframes, hchunks, -⟩ := (E.state n).receive.flightLoopStep_keeps hash env
        rw [heq]
        simpa only [ReceiveState.CaughtUp, hframes, hchunks] using ih

/-! ## Presses -/

/-- Registered frames run their own handlers. -/
theorem SeparatesLiterals.filterMap_presses (hhash : SeparatesLiterals hash)
    (presses : List Command) :
    (presses.map fun c => c.frame.bytes).filterMap (dispatch hash) = presses := by
  rw [List.filterMap_map]
  induction presses with
  | nil => rfl
  | cons c cs ih =>
    rw [List.filterMap_cons, Function.comp_apply, ih]
    simp only [Command.frame, hhash.dispatch_literal]

theorem map_bytes_presses {frames : List DeviceFrame} {presses : List Command}
    (h : frames = presses.map Command.frame) :
    frames.map DeviceFrame.bytes = presses.map fun c => c.frame.bytes := by
  rw [h, List.map_map]
  rfl

/-- What has been processed are whole frames, and their handlers are those of the presses. -/
theorem invoked_prefix_presses {s : ReceiveState} (h : (receiveSystem hash).Reachable s)
    (hhash : SeparatesLiterals hash) (hwhole : s.Whole) {presses : List Command}
    (hpresses : s.frames = presses.map Command.frame) : invoked s.config.2 <+: presses := by
  obtain ⟨done, hruns, hdone⟩ := receiveSystem_runsTo h
  have hbegins : done <+: s.chunks := by
    rw [hdone]
    exact List.prefix_append _ _
  have hframes := (hbegins.map SkalarkiMessage.msg).trans hwhole
  rw [map_bytes_presses hpresses] at hframes
  rw [hruns.invoked_eq, ← hhash.filterMap_presses presses]
  exact hframes.filterMap _

/-- The flight loop comes to the chunks that are the frames of the presses. -/
theorem presses_prefix_eventually (hE : Running E) (hhash : SeparatesLiterals hash)
    (hok : ∀ n, E.action n ≠ some .recvFails) (hreceive : E.Fair SystemAction.Receives)
    (hcallback : E.Fair fun a => ∃ env, a = .callback env)
    (hwhole : ∀ n, (E.state n).receive.Whole) {n : ℕ} {presses : List Command}
    (hpresses : (E.state n).receive.frames = presses.map Command.frame) :
    ∃ m, n ≤ m ∧ presses <+: invoked (E.state m).receive.config.2 := by
  obtain ⟨k, m, hk, hm, hreceived, done, hruns, -, hchunks⟩ :=
    chunks_handled_eventually hE hok hreceive hcallback n
  refine ⟨m, hk.trans hm, ?_⟩
  have hframes := (hwhole k).frames_read (hE.extends hk).frames hreceived
  rw [map_bytes_presses hpresses] at hframes
  rw [hruns.invoked_eq, ← hhash.filterMap_presses presses]
  exact (hframes.trans (hchunks.map SkalarkiMessage.msg)).filterMap _

/-- **Every press is carried out**: let no two literals collide. In every interleaving, as long as
every `recv` has returned a whole frame, the handlers that have run are the first ones of the
presses, in order and once each. If `XPluginStop` is not called and `recv` does not fail, in an
execution that is fair to the receive thread and to the callbacks, the handlers of all presses
run. -/
theorem every_press_handled (hhash : SeparatesLiterals hash) :
    (∀ (s : SystemState) (presses : List Command), (pluginSystem hash).Reachable s →
      s.receive.Whole → s.receive.frames = presses.map Command.frame →
        invoked s.receive.config.2 <+: presses) ∧
    ∀ (E : Execution (SystemAction.step hash)) (n : ℕ) (presses : List Command), Running E →
      (∀ n, E.action n ≠ some .recvFails) → E.Fair SystemAction.Receives →
      (E.Fair fun a => ∃ env, a = .callback env) → (∀ n, (E.state n).receive.Whole) →
      (E.state n).receive.frames = presses.map Command.frame →
        ∃ m, n ≤ m ∧ presses <+: invoked (E.state m).receive.config.2 := by
  constructor
  · intro s presses h hwhole hpresses
    exact invoked_prefix_presses (pluginSystem_inv h).receive hhash hwhole hpresses
  · intro E n presses hE hok hreceive hcallback hwhole hpresses
    exact presses_prefix_eventually hE hhash hok hreceive hcallback hwhole hpresses

/-- In the round robin, the panel sends one frame, and `recv` returns what is there. -/
theorem roundRobin_paced (c : Command) : Paced (roundRobinRun c fnv1a) where
  send n f hsend := by
    obtain ⟨rfl, rfl⟩ : n = 3 ∧ f = c.frame := by
      simpa using roundRobin_action hsend
    exact ⟨rfl, c.length_literal_le⟩
  recv n k hrecv := by
    obtain rfl : k = min skalarkiMessageMaxLength _ := by
      simpa using roundRobin_action hrecv
    exact le_rfl

/-- The panel sends one frame; at any time its handler has not run or has run once, and at some
time it has. -/
theorem every_press_handled_altRight :
    (∀ n, ((roundRobinRun .altRight fnv1a).state n).receive.frames = [Command.altRight.frame] →
      invoked ((roundRobinRun .altRight fnv1a).state n).receive.config.2 <+: [.altRight]) ∧
    ∃ m, [Command.altRight] <+:
      invoked ((roundRobinRun .altRight fnv1a).state m).receive.config.2 := by
  have hE := roundRobinRun_running .altRight fnv1a
  have hwhole := (roundRobin_paced .altRight).whole hE
  obtain ⟨hsafe, hlive⟩ := every_press_handled separatesLiterals_fnv1a
  refine ⟨fun n hframes => ?_, ?_⟩
  · exact hsafe _ [.altRight] (hE.reachable n) (hwhole n) hframes
  · obtain ⟨m, -, hpress⟩ := hlive _ 4 [.altRight] hE (roundRobin_recv_ok _ _)
      (roundRobin_fair_receives _ _) (roundRobin_fair_callback _ _) hwhole rfl
    exact ⟨m, hpress⟩

end Presses

end SkalarkiFcu
