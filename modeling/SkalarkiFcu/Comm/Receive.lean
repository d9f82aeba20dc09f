import SkalarkiFcu.Library.Transition
import SkalarkiFcu.Dispatch

/-!
# The receive path

The panel sends complete frames, the network cuts their bytes, `ReceiveThread` queues what each
`recv` returns, and the flight loop takes every queued message for one packet. So the handlers
that run are those of the chunks; whether they are those of the frames is settled by the cuts.

The steps are those between which another thread can run: `recv` and the locked push of
`ReceiveThread`, and the locked pop, `ProcessPacket` and `Update` of the flight loop.

## Architecture

- **State and steps**: `ReceiveState`, `ReceiveAction.step`
- **Invariant**: `ReceiveState.Inv`, where the bytes and the chunks of the panel are
- **Cuts**: `invoked_of_drained`, `handlers_eq_iff`, `handledRight_iff`
-/

namespace SkalarkiFcu

open LittleEndian Reactive

/-! ## Frames of the panel -/

/-- A complete frame from the panel: it starts with a word `L` and has `L + 4` bytes. -/
structure DeviceFrame where
  bytes : Bytes
  complete : declaredLength 4 bytes = some bytes.length

/-- Every registered literal is a complete frame. -/
def Command.frame (c : Command) : DeviceFrame where
  bytes := c.literal
  complete := c.declaredLength_literal

/-- A press fits into the buffer of `recv`. -/
theorem Command.length_literal_le (c : Command) :
    c.literal.length ≤ skalarkiMessageMaxLength := by
  have hregistered : ∀ c ∈ registered, c.literal.length ≤ skalarkiMessageMaxLength := by
    decide +kernel
  exact hregistered c (mem_registered c)

/-! ## State -/

/-- Where `ReceiveThread` is. -/
inductive ReceivePc where
  /-- Before the test of `_stopReceive`. -/
  | test
  /-- Before `recv`. -/
  | recv
  /-- `recv` has returned a message that is not yet queued. -/
  | push (m : SkalarkiMessage)
  | exited

/-- Where the flight loop is. -/
inductive LoopPc where
  /-- Outside `A330_SkalarkiUpdate`. -/
  | idle
  /-- Before `PopMessage`. -/
  | pop
  /-- Before `ProcessPacket`. -/
  | process (m : SkalarkiMessage)
  /-- Before `Update`. -/
  | update

/-- The members of `SkalarkiComm` that have to do with the reception, where the two threads are,
and what has happened so far. -/
structure ReceiveState where
  /-- The bytes that the panel has sent and `recv` has not returned. -/
  stream : Bytes
  messageQueueRx : List SkalarkiMessage
  stopReceive : Bool
  rxMessageCount : ℕ
  thread : ReceivePc
  flightLoop : LoopPc
  datarefsInitialized : Bool
  config : Config Globals Effect
  /-- The frames that the panel has sent, in order. -/
  frames : List DeviceFrame
  /-- What the calls of `recv` have returned, in order. -/
  chunks : List SkalarkiMessage

/-- After `XPluginStart`. -/
def ReceiveState.initial : ReceiveState where
  stream := []
  messageQueueRx := []
  stopReceive := false
  rxMessageCount := 0
  thread := .test
  flightLoop := .idle
  datarefsInitialized := false
  config := exec init (Globals.initial, [])
  frames := []
  chunks := []

/-! ## Steps -/

namespace ReceiveState

/-- The panel sends a frame. -/
def send (f : DeviceFrame) (s : ReceiveState) : ReceiveState :=
  { s with stream := s.stream ++ f.bytes, frames := s.frames ++ [f] }

/-- `recv` returns the next `n` bytes, at most as many as its buffer holds. -/
def recv (n : ℕ) (s : ReceiveState) : Option ReceiveState :=
  match s.thread with
  | .recv =>
    -- any number of bytes that are there, wherever the frames end
    if h : 0 < n ∧ n ≤ skalarkiMessageMaxLength ∧ n ≤ s.stream.length then
      let m : SkalarkiMessage := ⟨s.stream.take n, (List.length_take_le n _).trans h.2.1⟩
      some { s with stream := s.stream.drop n, thread := .push m, chunks := s.chunks ++ [m] }
    else none
  | _ => none

/-- `recv` returns 0 or `SOCKET_ERROR`. -/
def recvFails (s : ReceiveState) : Option ReceiveState :=
  match s.thread with
  -- neither is reported or ends the loop
  | .recv => some { s with thread := .test }
  | _ => none

/-- The other steps of `ReceiveThread`. -/
def receiveThread (s : ReceiveState) : Option ReceiveState :=
  match s.thread with
  | .test => some { s with thread := if s.stopReceive = false then .recv else .exited }
  | .push m => some { s with
      messageQueueRx := s.messageQueueRx ++ [m]
      rxMessageCount := s.rxMessageCount + 1
      thread := .test }
  | _ => none

/-- The next step of the flight loop, under the readings `env`. -/
def flightLoopStep (hash : Bytes → UInt64) (env : Datarefs) (s : ReceiveState) : ReceiveState :=
  match s.flightLoop with
  | .idle =>
    if s.datarefsInitialized = false then
      { s with
        config := exec (initDatarefs env) s.config
        datarefsInitialized := true
        flightLoop := .pop }
    else { s with flightLoop := .pop }
  | .pop =>
    match s.messageQueueRx with
    | m :: rest =>
      -- a popped message of length 0 would end the loop like an empty queue
      if 0 < m.msg.length then { s with messageQueueRx := rest, flightLoop := .process m }
      else { s with messageQueueRx := rest, flightLoop := .update }
    -- the empty `SkalarkiMessage()`
    | [] => { s with flightLoop := .update }
  | .process m =>
    { s with config := exec (processPacket hash env m.msg) s.config, flightLoop := .pop }
  | .update => { s with config := exec (update env) s.config, flightLoop := .idle }

end ReceiveState

/-- Who takes the next step. -/
inductive ReceiveAction where
  | send (f : DeviceFrame)
  | recv (n : ℕ)
  | recvFails
  | receiveThread
  /-- The store of `Shutdown`. -/
  | stopReceive
  | flightLoop (env : Datarefs)

def ReceiveAction.step (hash : Bytes → UInt64) :
    ReceiveAction → ReceiveState → Option ReceiveState
  | .send f, s => some (s.send f)
  | .recv n, s => s.recv n
  | .recvFails, s => s.recvFails
  | .receiveThread, s => s.receiveThread
  | .stopReceive, s => some { s with stopReceive := true }
  | .flightLoop env, s => some (s.flightLoopStep hash env)

/-- Every interleaving of the panel, the network, the thread and the flight loop. -/
def receiveSystem (hash : Bytes → UInt64) : TransitionSystem ReceiveState where
  init s := s = .initial
  next s t := ∃ a : ReceiveAction, a.step hash s = some t

/-! ## What a step can do -/

namespace ReceiveState

variable {hash : Bytes → UInt64} {s t : ReceiveState}

/-- A `recv` cuts a nonempty message off the stream. -/
theorem recv_cases {n : ℕ} (h : s.recv n = some t) : ∃ m rest, s.thread = .recv ∧
    0 < m.msg.length ∧ s.stream = m.msg ++ rest ∧
    t = { s with stream := rest, thread := .push m, chunks := s.chunks ++ [m] } := by
  cases hpc : s.thread with
  | recv =>
    simp only [recv, hpc] at h
    split at h
    case isFalse => cases h
    case isTrue hn =>
      -- the length is positive, and neither the buffer nor the stream is exceeded
      obtain rfl := Option.some.inj h
      refine ⟨⟨s.stream.take n, (List.length_take_le n _).trans hn.2.1⟩, s.stream.drop n, rfl, ?_,
        (List.take_append_drop n s.stream).symm, rfl⟩
      rw [List.length_take_of_le hn.2.2]
      exact hn.1
  | test => simp [recv, hpc] at h
  | push m => simp [recv, hpc] at h
  | exited => simp [recv, hpc] at h

theorem recvFails_cases (h : s.recvFails = some t) :
    s.thread = .recv ∧ t = { s with thread := .test } := by
  cases hpc : s.thread with
  | recv => exact ⟨rfl, by simpa [recvFails, hpc] using h.symm⟩
  | test => simp [recvFails, hpc] at h
  | push m => simp [recvFails, hpc] at h
  | exited => simp [recvFails, hpc] at h

theorem receiveThread_cases (h : s.receiveThread = some t) :
    (s.thread = .test ∧ ∃ pc, (pc = .recv ∨ pc = .exited) ∧ t = { s with thread := pc }) ∨
    (∃ m, s.thread = .push m ∧ t = { s with
      messageQueueRx := s.messageQueueRx ++ [m]
      rxMessageCount := s.rxMessageCount + 1
      thread := .test }) := by
  cases hpc : s.thread with
  | test =>
    -- the test of the loop reads the flag
    refine .inl ⟨rfl, if s.stopReceive = false then .recv else .exited, ?_, ?_⟩
    · split
      · exact .inl rfl
      · exact .inr rfl
    · simpa [receiveThread, hpc] using h.symm
  | push m => exact .inr ⟨m, rfl, by simpa [receiveThread, hpc] using h.symm⟩
  | recv => simp [receiveThread, hpc] at h
  | exited => simp [receiveThread, hpc] at h

end ReceiveState

/-! ## The invariant -/

namespace ReceiveState

/-- The message in the hands of `ReceiveThread`. -/
def inThread (s : ReceiveState) : List SkalarkiMessage :=
  match s.thread with
  | .push m => [m]
  | _ => []

/-- The message in the hands of the flight loop. -/
def inLoop (s : ReceiveState) : List SkalarkiMessage :=
  match s.flightLoop with
  | .process m => [m]
  | _ => []

/-- No byte and no message is under way any more. -/
structure Drained (s : ReceiveState) : Prop where
  stream : s.stream = []
  inThread : s.inThread = []
  queue : s.messageQueueRx = []
  inLoop : s.inLoop = []

/-- Where the bytes of the panel and the chunks of `recv` are. -/
structure Inv (hash : Bytes → UInt64) (s : ReceiveState) : Prop where
  /-- The chunks and the rest of the stream are the frames. -/
  bytes : (s.chunks.map SkalarkiMessage.msg).flatten ++ s.stream =
    (s.frames.map DeviceFrame.bytes).flatten
  chunks_pos : ∀ m ∈ s.chunks, 0 < m.msg.length
  /-- The chunks have been handled, in order, or are on their way. -/
  handled : ∃ done, s.chunks = done ++ (s.inLoop ++ (s.messageQueueRx ++ s.inThread)) ∧
    invoked s.config.2 = done.filterMap fun m => dispatch hash m.msg

variable {hash : Bytes → UInt64} {s t : ReceiveState}

theorem inv_initial : Inv hash .initial where
  bytes := rfl
  chunks_pos := by simp [initial]
  handled := ⟨[], rfl, by simpa [initial] using invoked_init⟩

theorem Inv.send (h : s.Inv hash) (f : DeviceFrame) : (s.send f).Inv hash := by
  refine ⟨?_, h.chunks_pos, h.handled⟩
  simp only [ReceiveState.send, List.map_append, List.flatten_append, ← h.bytes]
  simp

theorem Inv.recv (h : s.Inv hash) {n : ℕ} (ht : s.recv n = some t) : t.Inv hash := by
  obtain ⟨m, rest, hpc, hm, hstream, rfl⟩ := recv_cases ht
  obtain ⟨done, hchunks, hinvoked⟩ := h.handled
  -- the bytes move from the stream to the chunks, and the message to the thread
  refine ⟨?_, ?_, done, ?_, hinvoked⟩
  · rw [← h.bytes, hstream]
    simp
  · intro m' hm'
    rcases List.mem_append.mp hm' with hm' | hm'
    · exact h.chunks_pos m' hm'
    · rwa [List.mem_singleton.mp hm']
  · have hthread : s.inThread = [] := by simp [inThread, hpc]
    rw [hthread] at hchunks
    simp [hchunks, inLoop, inThread]

theorem Inv.recvFails (h : s.Inv hash) (ht : s.recvFails = some t) : t.Inv hash := by
  obtain ⟨hpc, rfl⟩ := recvFails_cases ht
  refine ⟨h.bytes, h.chunks_pos, ?_⟩
  simpa [inLoop, inThread, hpc] using h.handled

theorem Inv.receiveThread (h : s.Inv hash) (ht : s.receiveThread = some t) : t.Inv hash := by
  rcases receiveThread_cases ht with ⟨hpc, pc, hnext, rfl⟩ | ⟨m, hpc, rfl⟩
  · refine ⟨h.bytes, h.chunks_pos, ?_⟩
    rcases hnext with rfl | rfl <;> simpa [inLoop, inThread, hpc] using h.handled
  · refine ⟨h.bytes, h.chunks_pos, ?_⟩
    simpa [inLoop, inThread, hpc] using h.handled

theorem Inv.flightLoopStep (h : s.Inv hash) (env : Datarefs) :
    (s.flightLoopStep hash env).Inv hash := by
  obtain ⟨done, hchunks, hinvoked⟩ := h.handled
  -- only `ProcessPacket` runs a handler; the other steps move a message or nothing
  cases hpc : s.flightLoop with
  | idle =>
    have hloop : s.inLoop = [] := by simp [inLoop, hpc]
    rw [hloop] at hchunks
    by_cases hinit : s.datarefsInitialized = false
    · simp only [ReceiveState.flightLoopStep, hpc, if_pos hinit]
      refine ⟨h.bytes, h.chunks_pos, done, hchunks, ?_⟩
      rw [exec_snd, invoked_append, invoked_initDatarefs, List.append_nil, hinvoked]
    · simp only [ReceiveState.flightLoopStep, hpc, if_neg hinit]
      exact ⟨h.bytes, h.chunks_pos, done, hchunks, hinvoked⟩
  | pop =>
    have hloop : s.inLoop = [] := by simp [inLoop, hpc]
    rw [hloop] at hchunks
    cases hqueue : s.messageQueueRx with
    | nil =>
      rw [hqueue] at hchunks
      simp only [ReceiveState.flightLoopStep, hpc, hqueue]
      exact ⟨h.bytes, h.chunks_pos, done, hchunks, hinvoked⟩
    | cons m rest =>
      rw [hqueue] at hchunks
      have hm : 0 < m.msg.length := h.chunks_pos m (by simp [hchunks])
      simp only [ReceiveState.flightLoopStep, hpc, hqueue, if_pos hm]
      exact ⟨h.bytes, h.chunks_pos, done, hchunks, hinvoked⟩
  | process m =>
    have hloop : s.inLoop = [m] := by simp [inLoop, hpc]
    rw [hloop] at hchunks
    simp only [ReceiveState.flightLoopStep, hpc]
    -- the message in hand joins those that are done, with the handler that its dispatch finds
    refine ⟨h.bytes, h.chunks_pos, done ++ [m], ?_, ?_⟩
    · rw [List.append_assoc]
      exact hchunks
    · rw [exec_snd, invoked_append, invoked_processPacket, hinvoked, List.filterMap_append]
      cases hd : dispatch hash m.msg <;> simp [hd]
  | update =>
    have hloop : s.inLoop = [] := by simp [inLoop, hpc]
    rw [hloop] at hchunks
    simp only [ReceiveState.flightLoopStep, hpc]
    refine ⟨h.bytes, h.chunks_pos, done, hchunks, ?_⟩
    rw [exec_snd, invoked_append, invoked_update, List.append_nil, hinvoked]

end ReceiveState

/-- Every step keeps the invariant. -/
theorem ReceiveAction.inv_step {hash : Bytes → UInt64} {s t : ReceiveState} (h : s.Inv hash)
    {a : ReceiveAction} (ht : a.step hash s = some t) : t.Inv hash := by
  cases a with
  | send f =>
    obtain rfl : s.send f = t := Option.some.inj ht
    exact h.send f
  | recv n => exact h.recv ht
  | recvFails => exact h.recvFails ht
  | receiveThread => exact h.receiveThread ht
  | stopReceive =>
    obtain rfl : { s with stopReceive := true } = t := Option.some.inj ht
    exact ⟨h.bytes, h.chunks_pos, h.handled⟩
  | flightLoop env =>
    obtain rfl : s.flightLoopStep hash env = t := Option.some.inj ht
    exact h.flightLoopStep env

theorem receiveSystem_inv {hash : Bytes → UInt64} {s : ReceiveState}
    (h : (receiveSystem hash).Reachable s) : s.Inv hash := by
  apply h.invariant
  · rintro s rfl
    exact ReceiveState.inv_initial
  · rintro s t hs ⟨a, ha⟩
    exact a.inv_step hs ha

/-! ## Chunks and frames -/

section Drained

variable {hash : Bytes → UInt64} {s : ReceiveState} (h : (receiveSystem hash).Reachable s)
  (hdrained : s.Drained)

include h hdrained

/-- **What runs**: once everything is drained, each chunk has been dispatched as one packet. -/
theorem invoked_of_drained :
    invoked s.config.2 = s.chunks.filterMap fun m => dispatch hash m.msg := by
  obtain ⟨done, hchunks, hinvoked⟩ := (receiveSystem_inv h).handled
  rw [hinvoked, hchunks, hdrained.inLoop, hdrained.queue, hdrained.inThread]
  simp

/-- The chunks are the bytes of the frames. -/
theorem flatten_chunks_of_drained :
    (s.chunks.map SkalarkiMessage.msg).flatten = (s.frames.map DeviceFrame.bytes).flatten := by
  have hbytes := (receiveSystem_inv h).bytes
  rwa [hdrained.stream, List.append_nil] at hbytes

end Drained

/-- The packet is one of the literals in `CommandMap`. -/
def isRegistered (packet : Bytes) : Bool := registered.any fun c => decide (c.literal = packet)

/-- The handlers that are registered for some packets, in order. -/
def handlers (packets : List Bytes) : List Command :=
  packets.filterMap fun packet => registered.find? fun c => decide (c.literal = packet)

theorem map_literal_handlers (packets : List Bytes) :
    (handlers packets).map Command.literal = packets.filter isRegistered := by
  -- a packet has a handler exactly if it is registered, and then it is that literal
  induction packets with
  | nil => rfl
  | cons packet packets ih =>
    have hreg : isRegistered packet =
        (registered.find? fun c => decide (c.literal = packet)).isSome := by
      rw [isRegistered, List.isSome_find?]
    cases hfind : registered.find? fun c => decide (c.literal = packet) with
    | none =>
      rw [handlers, List.filterMap_cons, hfind, List.filter_cons, hreg, hfind]
      exact ih
    | some c =>
      rw [handlers, List.filterMap_cons, hfind, List.filter_cons, hreg, hfind,
        (find_literal_eq_some_iff packet c).mp hfind]
      exact congrArg (c.literal :: ·) ih

/-- Two sequences of packets have the same handlers if and only if they have the same registered
packets. -/
theorem handlers_eq_iff (packets packets' : List Bytes) :
    handlers packets = handlers packets' ↔
      packets.filter isRegistered = packets'.filter isRegistered := by
  rw [← map_literal_handlers, ← map_literal_handlers,
    (List.map_injective_iff.mpr Command.literal_injective).eq_iff]

/-! ## The handlers of the frames -/

/-- The handlers that ran are those of the frames: every registered frame has been handled once,
in order. -/
def HandledRight (s : ReceiveState) : Prop :=
  invoked s.config.2 = handlers (s.frames.map DeviceFrame.bytes)

/-- The chunks that are registered are the frames that are. -/
def CutAtFrames (s : ReceiveState) : Prop :=
  (s.chunks.map SkalarkiMessage.msg).filter isRegistered =
    (s.frames.map DeviceFrame.bytes).filter isRegistered

section Cuts

variable {hash : Bytes → UInt64} {s : ReceiveState} (h : (receiveSystem hash).Reachable s)
  (hdrained : s.Drained)

include h hdrained

/-- If all frames are registered, the cuts are good exactly if every `recv` has returned one
frame. -/
theorem cutAtFrames_iff_of_registered (hframes : ∀ f ∈ s.frames, isRegistered f.bytes = true) :
    CutAtFrames s ↔ s.chunks.map SkalarkiMessage.msg = s.frames.map DeviceFrame.bytes := by
  have hall : (s.frames.map DeviceFrame.bytes).filter isRegistered =
      s.frames.map DeviceFrame.bytes := by
    rw [List.filter_eq_self]
    intro b hb
    obtain ⟨f, hf, rfl⟩ := List.mem_map.mp hb
    exact hframes f hf
  have hpos : ∀ b ∈ s.chunks.map SkalarkiMessage.msg, 0 < b.length := by
    intro b hb
    obtain ⟨m, hm, rfl⟩ := List.mem_map.mp hb
    exact (receiveSystem_inv h).chunks_pos m hm
  rw [CutAtFrames, hall]
  constructor
  -- the registered chunks already have all bytes, so no other chunk is left
  · intro hcut
    have hflatten := flatten_chunks_of_drained h hdrained
    rw [← hcut] at hflatten
    rw [← Framing.filter_eq_self_of_flatten_eq hpos hflatten.symm, hcut]
  · intro heq
    rw [heq, hall]

/-- **Reception**: if no received chunk collides with a literal that is registered before its
own, the handlers of the frames have run exactly if the registered chunks are the registered
frames; for registered frames alone, exactly if every `recv` has returned one frame. -/
theorem handledRight_iff
    (hhash : ∀ m ∈ s.chunks, ∀ c ∈ FirstWins.before Command.literal registered m.msg,
      hash c.literal ≠ hash m.msg) :
    (HandledRight s ↔ CutAtFrames s) ∧
      ((∀ f ∈ s.frames, isRegistered f.bytes = true) →
        (HandledRight s ↔
          s.chunks.map SkalarkiMessage.msg = s.frames.map DeviceFrame.bytes)) := by
  have hinvoked : invoked s.config.2 = handlers (s.chunks.map SkalarkiMessage.msg) := by
    rw [invoked_of_drained h hdrained, handlers, List.filterMap_map]
    apply List.filterMap_congr
    intro m hm
    -- no entry before its own has its hash: the chunk is looked up by content
    rw [dispatch_eq]
    exact (FirstWins.find_hash_eq_iff Command.literal hash registered m.msg).mpr (hhash m hm)
  have hiff : HandledRight s ↔ CutAtFrames s := by
    rw [HandledRight, hinvoked]
    apply handlers_eq_iff
  refine ⟨hiff, fun hframes => ?_⟩
  rw [hiff]
  exact cutAtFrames_iff_of_registered h hdrained hframes

end Cuts

/-! ## Runs with given cuts -/

/-- The receive path waits for bytes, in the middle of a call of the flight loop. -/
structure ReceiveState.Waiting (s : ReceiveState) : Prop where
  stream : s.stream = []
  queue : s.messageQueueRx = []
  thread : s.thread = .test
  stopReceive : s.stopReceive = false
  flightLoop : s.flightLoop = .pop

theorem ReceiveState.Waiting.drained {s : ReceiveState} (h : s.Waiting) : s.Drained where
  stream := h.stream
  inThread := by simp [inThread, h.thread]
  queue := h.queue
  inLoop := by simp [inLoop, h.flightLoop]

section Runs

variable {hash : Bytes → UInt64} {s : ReceiveState}

theorem reachable_sent (h : (receiveSystem hash).Reachable s) (frames : List DeviceFrame) :
    (receiveSystem hash).Reachable { s with
      stream := s.stream ++ (frames.map DeviceFrame.bytes).flatten
      frames := s.frames ++ frames } := by
  induction frames using List.reverseRecOn with
  | nil => simpa using h
  | append_singleton frames f ih =>
    refine ih.step ⟨.send f, ?_⟩
    simp [ReceiveAction.step, ReceiveState.send]

/-- Some frames that one `recv` returns are handled as one packet. -/
theorem exists_handled (h : (receiveSystem hash).Reachable s) (hs : s.Waiting)
    (frames : List DeviceFrame) (m : SkalarkiMessage) (hpos : 0 < m.msg.length)
    (hm : (frames.map DeviceFrame.bytes).flatten = m.msg) :
    ∃ t, (receiveSystem hash).Reachable t ∧ t.Waiting ∧ t.frames = s.frames ++ frames ∧
      t.chunks = s.chunks ++ [m] := by
  have hsent := reachable_sent h frames
  rw [hm, hs.stream, List.nil_append] at hsent
  -- the thread receives and queues, and the flight loop pops and processes
  have htested := hsent.step (t := { s with
    stream := m.msg, frames := s.frames ++ frames, thread := .recv }) ⟨.receiveThread, by
      simp [ReceiveAction.step, ReceiveState.receiveThread, hs.thread, hs.stopReceive]⟩
  have hreceived := htested.step (t := { s with
    stream := [], frames := s.frames ++ frames, thread := .push m, chunks := s.chunks ++ [m] })
    ⟨.recv m.msg.length, by simp [ReceiveAction.step, ReceiveState.recv, hpos, m.len_le]⟩
  have hqueued := hreceived.step (t := { s with
    stream := [], frames := s.frames ++ frames, thread := .test, chunks := s.chunks ++ [m]
    messageQueueRx := [m], rxMessageCount := s.rxMessageCount + 1 }) ⟨.receiveThread, by
      simp [ReceiveAction.step, ReceiveState.receiveThread, hs.queue]⟩
  have hpopped := hqueued.step (t := { s with
    stream := [], frames := s.frames ++ frames, thread := .test, chunks := s.chunks ++ [m]
    messageQueueRx := [], rxMessageCount := s.rxMessageCount + 1, flightLoop := .process m })
    ⟨.flightLoop .zero, by
      simp [ReceiveAction.step, ReceiveState.flightLoopStep, hs.flightLoop, hpos]⟩
  have hhandled := hpopped.step ⟨.flightLoop .zero, rfl⟩
  exact ⟨_, hhandled, ⟨rfl, rfl, rfl, hs.stopReceive, rfl⟩, rfl, rfl⟩

/-- A run for given cuts: each group of frames is returned by one `recv`, and handled before the
next group is sent. -/
theorem exists_drained (hash : Bytes → UInt64)
    (groups : List (List DeviceFrame × SkalarkiMessage))
    (hgroups : ∀ g ∈ groups, 0 < g.2.msg.length ∧
      (g.1.map DeviceFrame.bytes).flatten = g.2.msg) :
    ∃ s, (receiveSystem hash).Reachable s ∧ s.Drained ∧
      s.frames = (groups.map Prod.fst).flatten ∧ s.chunks = groups.map Prod.snd := by
  suffices hrun : ∃ s, (receiveSystem hash).Reachable s ∧ s.Waiting ∧
      s.frames = (groups.map Prod.fst).flatten ∧ s.chunks = groups.map Prod.snd by
    obtain ⟨s, hreach, hwaiting, hframes, hchunks⟩ := hrun
    exact ⟨s, hreach, hwaiting.drained, hframes, hchunks⟩
  induction groups using List.reverseRecOn with
  | nil =>
    have hcalled : (receiveSystem hash).Reachable (ReceiveState.initial.flightLoopStep hash .zero) :=
      .step (.start rfl) ⟨.flightLoop .zero, rfl⟩
    exact ⟨_, hcalled, ⟨rfl, rfl, rfl, rfl, rfl⟩, rfl, rfl⟩
  | append_singleton groups g ih =>
    obtain ⟨s, hreach, hwaiting, hframes, hchunks⟩ :=
      ih fun g' hg' => hgroups g' (List.mem_append_left _ hg')
    obtain ⟨hpos, hbytes⟩ := hgroups g (by simp)
    -- the last group is sent, returned and handled after all others
    obtain ⟨t, htreach, htwaiting, htframes, htchunks⟩ :=
      exists_handled hreach hwaiting g.1 g.2 hpos hbytes
    refine ⟨t, htreach, htwaiting, ?_, ?_⟩
    · rw [htframes, hframes]
      simp
    · rw [htchunks, hchunks]
      simp

end Runs

/-- A press that one `recv` returns. -/
def Command.group (c : Command) : List DeviceFrame × SkalarkiMessage :=
  ([c.frame], ⟨c.literal, c.length_literal_le⟩)

/-- Two frames of different knobs, returned by two calls of `recv`. -/
theorem handledRight_two_recvs : ∃ s, (receiveSystem fnv1a).Reachable s ∧ s.Drained ∧
    s.frames = [Command.altRight.frame, Command.spdLeft.frame] ∧ s.chunks.length = 2 ∧
    HandledRight s := by
  obtain ⟨s, hreach, hdrained, hframes, hchunks⟩ :=
    exists_drained fnv1a [Command.altRight.group, Command.spdLeft.group] (by decide)
  refine ⟨s, hreach, hdrained, hframes, by rw [hchunks]; rfl, ?_⟩
  refine ((handledRight_iff hreach hdrained ?_).2 ?_).mpr ?_
  · rw [hchunks]
    decide +kernel
  · rw [hframes]
    decide
  · rw [hframes, hchunks]
    rfl

/-- Two frames, returned by one `recv`: no handler runs. -/
theorem handledRight_two_frames :
    ¬ ∀ (hash : Bytes → UInt64) (s : ReceiveState), (receiveSystem hash).Reachable s →
      s.Drained → (∀ m ∈ s.chunks, ∀ c : Command, hash c.literal = hash m.msg →
        c.literal = m.msg) → HandledRight s := by
  intro h
  let m : SkalarkiMessage := ⟨Command.altRight.literal ++ Command.altRight.literal, by decide⟩
  obtain ⟨s, hreach, hdrained, hframes, hchunks⟩ := exists_drained fnv1a
    [([Command.altRight.frame, Command.altRight.frame], m)] (by decide)
  simp only [List.map_cons, List.map_nil, List.flatten_cons, List.flatten_nil, List.append_nil]
    at hframes hchunks
  -- the two frames together have the hash of no literal
  have hhash : ∀ c ∈ registered, fnv1a c.literal ≠ fnv1a m.msg := by
    decide +kernel
  have hright := h fnv1a s hreach hdrained (by
    rw [hchunks]
    intro m' hm' c hc
    rw [List.mem_singleton.mp hm'] at hc
    exact absurd hc (hhash c (mem_registered c)))
  have hnone : dispatch fnv1a m.msg = none := by
    decide +kernel
  rw [HandledRight, invoked_of_drained hreach hdrained, hframes, hchunks, List.filterMap_cons,
    hnone] at hright
  -- the frames ask for two handlers
  have htwo : (handlers ([Command.altRight.frame, Command.altRight.frame].map
      DeviceFrame.bytes)).length = 2 := by
    decide
  rw [← hright] at htwo
  cases htwo

end SkalarkiFcu
