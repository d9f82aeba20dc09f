import SkalarkiFcu.Plugin

/-!
# The life cycle of the connection

`XPluginStart` opens the connection and starts two threads, `XPluginStop` shuts it down and
destroys it, and each system call in between can fail. `lifecycle` runs the three entry points
of the plugin and records the calls that they make. The members of `SkalarkiComm` here are those
that decide about sockets and threads; the queues and the semaphore decide about neither.

A `join` of a thread that is not joinable throws, and the destructor of a thread that is still
joinable terminates: in both cases nothing that follows is run.

## Architecture

- **The connection**: `SkalarkiComm.init`, `SkalarkiComm.shutdown`, `SkalarkiComm.destructor`
- **The plugin**: `xPluginStart`, `a330SkalarkiUpdate`, `xPluginStop`
- **Safety**: `LifecycleSafe`, and what every run has instead: `lifecycle_calls`
-/

namespace SkalarkiFcu

open LittleEndian Reactive

/-! ## State and calls -/

/-- The threads of `SkalarkiComm`. -/
inductive ThreadId where
  /-- `_transmitThread` -/
  | transmit
  /-- `_receiveThread` -/
  | receive
  deriving DecidableEq, Repr

/-- The members of `SkalarkiComm` that decide about sockets and threads. -/
structure SkalarkiComm where
  /-- `_socket`; `none` is `INVALID_SOCKET`. -/
  socket : Option ℕ
  /-- The threads that are joinable. -/
  joinable : ThreadId → Bool

/-- What is called, as far as it was successful, and what `SkalarkiCmd` does. -/
inductive Call where
  | wsaStartup
  | wsaCleanup
  | socket (fd : ℕ)
  | closesocket (fd : ℕ)
  | send (fd len : ℕ)
  /-- The constructor of a thread that runs a function. -/
  | startThread (t : ThreadId)
  | join (t : ThreadId) (joinable : Bool)
  | destroyThread (t : ThreadId) (joinable : Bool)
  | debugString (text : String)
  | printf (text : String)
  | effect (e : Effect)
  deriving DecidableEq

/-- The results of the system calls. -/
structure SystemResults where
  wsaStartup : ℤ
  getaddrinfo : ℤ
  /-- `none` is `INVALID_SOCKET`. -/
  socket : Option ℕ
  connect : ℤ
  /-- `shutdown` in the call of `Shutdown` from `XPluginStop`. -/
  shutdown : ℤ
  /-- `shutdown` in the call of `Shutdown` from the destructor. -/
  shutdownAgain : ℤ
  wsaGetLastError : ℤ

/-- `SOCKET_ERROR` -/
def socketError : ℤ := -1

/-- The plugin: the connection, the globals, and the calls so far. -/
structure PluginState where
  comm : SkalarkiComm
  cmd : Globals
  datarefsInitialized : Bool
  calls : List Call

/-- The end of the program by an exception that nothing catches. -/
inductive Terminated where
  | terminate

/-- Code that can end the program. -/
abbrev PluginM := EStateM Terminated PluginState

/-- Record a call. -/
def record (c : Call) : PluginM Unit :=
  modify fun s => { s with calls := s.calls ++ [c] }

/-- Run an action of `SkalarkiCmd`. -/
def perform (a : Action Globals Effect) : PluginM Unit :=
  modify fun s => { s with
    cmd := (a s.cmd).1
    calls := s.calls ++ (a s.cmd).2.map .effect }

/-! ## The connection -/

namespace SkalarkiComm

/-- The state that the constructor leaves. -/
def initial : SkalarkiComm where
  socket := none
  joinable := fun _ => false

def setSocket (fd : Option ℕ) : PluginM Unit :=
  modify fun s => { s with comm := { s.comm with socket := fd } }

def setJoinable (t : ThreadId) (b : Bool) : PluginM Unit :=
  modify fun s => { s with comm := { s.comm with
    joinable := fun t' => if t' = t then b else s.comm.joinable t' } }

/-- `_thread = std::thread(...)` -/
def startThread (t : ThreadId) : PluginM Unit := do
  record (.startThread t)
  setJoinable t true

/-- `_thread.join()`: throws `std::system_error` if there is nothing to join. -/
def join (t : ThreadId) : PluginM Unit := do
  let s ← get
  record (.join t (s.comm.joinable t))
  if s.comm.joinable t = true then setJoinable t false
  else throw .terminate

/-- `~thread()`: terminates if the thread has not been joined. -/
def destroyThread (t : ThreadId) : PluginM Unit := do
  let s ← get
  record (.destroyThread t (s.comm.joinable t))
  if s.comm.joinable t = true then throw .terminate

def debugString (text : String) : PluginM Unit :=
  record (.debugString ("A330_Skalarki: " ++ text ++ "\n"))

/-- `SkalarkiComm::Init`. -/
def init (sys : SystemResults) (firstBufferLen : ℕ) : PluginM ℤ := do
  if sys.wsaStartup ≠ 0 then
    debugString ("WSAStartup failed with error: " ++ toString sys.wsaStartup)
    return 1
  record .wsaStartup
  if sys.getaddrinfo ≠ 0 then
    debugString ("getaddrinfo failed with error: " ++ toString sys.getaddrinfo)
    record .wsaCleanup
    return 1
  setSocket sys.socket
  match sys.socket with
  | none =>
    debugString ("socket failed with error: " ++ toString sys.wsaGetLastError)
    record .wsaCleanup
    return 1
  | some fd =>
    record (.socket fd)
    if sys.connect = socketError then
      record (.closesocket fd)
      setSocket none
    -- the source tries one address only; a refused connection leaves no socket
    if (← get).comm.socket = none then
      debugString "Unable to connect to server!"
      record .wsaCleanup
      return 1
    record (.send fd firstBufferLen)
    startThread .transmit
    startThread .receive
    return 0

/-- `SkalarkiComm::Shutdown`, where `result` is that of `shutdown`. Its stores and its release,
before it waits for the threads, are those of `TransmitState.shutdownStep`. -/
def shutdown (result lastError : ℤ) : PluginM ℤ := do
  debugString "ShutdownCommunication..."
  debugString "Stop threads"
  debugString "Wait for threads"
  join .transmit
  debugString "Shutdown socket"
  let s ← get
  -- on this path the receive thread is not waited for
  if result = socketError then
    record (.printf ("shutdown failed with error: " ++ toString lastError ++ "\n"))
    if let some fd := s.comm.socket then record (.closesocket fd)
    record .wsaCleanup
    return 1
  join .receive
  if let some fd := s.comm.socket then record (.closesocket fd)
  record .wsaCleanup
  debugString "Finish shutdown"
  return 0

/-- `SkalarkiComm::~SkalarkiComm`, and the destructors of the threads. -/
def destructor (result lastError : ℤ) : PluginM Unit := do
  if (← get).comm.socket ≠ none then
    let _ ← shutdown result lastError
  -- the members are destroyed in the reverse order of their declaration
  destroyThread .receive
  destroyThread .transmit

end SkalarkiComm

/-! ## The plugin -/

/-- The readings and the packets of one call of `A330_SkalarkiUpdate`. -/
structure FlightLoop where
  /-- What `InitDatarefs` reads, in the first call. -/
  env₀ : Datarefs
  packets : List (Datarefs × Bytes)
  env : Datarefs

/-- `XPluginStart`. -/
def xPluginStart (sys : SystemResults) : PluginM Unit := do
  SkalarkiComm.debugString "Start..."
  modify fun s => { s with datarefsInitialized := false, comm := .initial }
  let _ ← SkalarkiComm.init sys intBufLen
  perform SkalarkiFcu.init

/-- `A330_SkalarkiUpdate`. -/
def a330SkalarkiUpdate (hash : Bytes → UInt64) (loop : FlightLoop) : PluginM Unit := do
  if (← get).datarefsInitialized = false then
    perform (initDatarefs loop.env₀)
    modify fun s => { s with datarefsInitialized := true }
  loop.packets.forM fun p => perform (processPacket hash p.1 p.2)
  perform (update loop.env)

/-- `XPluginStop`. -/
def xPluginStop (sys : SystemResults) : PluginM Unit := do
  modify fun s => { s with datarefsInitialized := false }
  let _ ← SkalarkiComm.shutdown sys.shutdown sys.wsaGetLastError
  SkalarkiComm.destructor sys.shutdownAgain sys.wsaGetLastError

/-- The whole life of the plugin. -/
def lifecycle (sys : SystemResults) (hash : Bytes → UInt64) (loops : List FlightLoop) :
    PluginM Unit := do
  xPluginStart sys
  loops.forM (a330SkalarkiUpdate hash)
  xPluginStop sys

/-- The plugin as it is loaded. -/
def PluginState.initial : PluginState where
  comm := .initial
  cmd := .initial
  datarefsInitialized := false
  calls := []

/-- The calls until the end of the life, or until the program is terminated. -/
def lifecycleCalls (sys : SystemResults) (hash : Bytes → UInt64) (loops : List FlightLoop) :
    List Call :=
  match (lifecycle sys hash loops).run .initial with
  | .ok _ s => s.calls
  | .error _ s => s.calls

/-! ## Resources -/

/-- A call about Winsock, a socket or a thread. -/
@[simp] def Call.isResource : Call → Bool
  | .wsaStartup | .wsaCleanup | .socket _ | .closesocket _ | .startThread _ | .join _ _
  | .destroyThread _ _ => true
  | .send _ _ | .debugString _ | .printf _ | .effect _ => false

/-- The calls about resources, in order. -/
def resources (calls : List Call) : List Call := calls.filter Call.isResource

@[simp] theorem resources_append (cs ds : List Call) :
    resources (cs ++ ds) = resources cs ++ resources ds := List.filter_append cs ds

@[simp] theorem resources_nil : resources [] = [] := rfl

@[simp] theorem resources_cons (c : Call) (cs : List Call) :
    resources (c :: cs) = if c.isResource then c :: resources cs else resources cs :=
  List.filter_cons

@[simp] theorem resources_effects (es : List Effect) : resources (es.map .effect) = [] := by
  rw [resources, List.filter_eq_nil_iff]
  intro c hc
  obtain ⟨e, -, rfl⟩ := List.mem_map.mp hc
  exact Bool.false_ne_true

/-- The socket that `Init` connects. -/
def SystemResults.connected (sys : SystemResults) : Option ℕ :=
  if sys.wsaStartup = 0 ∧ sys.getaddrinfo = 0 ∧ sys.connect ≠ socketError then sys.socket else none

/-- What `Init` does about resources. -/
def initResources (sys : SystemResults) : List Call :=
  if sys.wsaStartup ≠ 0 then []
  else if sys.getaddrinfo ≠ 0 then [.wsaStartup, .wsaCleanup]
  else match sys.socket with
    | none => [.wsaStartup, .wsaCleanup]
    | some fd =>
      if sys.connect = socketError then
        [.wsaStartup, .socket fd, .closesocket fd, .wsaCleanup]
      else [.wsaStartup, .socket fd, .startThread .transmit, .startThread .receive]

/-- The connection after `Init`. -/
def SkalarkiComm.afterInit (sys : SystemResults) : SkalarkiComm where
  socket := sys.connected
  joinable := fun _ => sys.connected.isSome

@[simp] theorem run_record (c : Call) (s : PluginState) :
    (record c).run s = .ok () { s with calls := s.calls ++ [c] } := rfl

@[simp] theorem run_perform (a : Action Globals Effect) (s : PluginState) :
    (perform a).run s = .ok () { s with
      cmd := (a s.cmd).1, calls := s.calls ++ (a s.cmd).2.map .effect } := rfl

namespace SkalarkiComm

@[simp] theorem run_debugString (text : String) (s : PluginState) :
    (debugString text).run s = .ok () { s with
      calls := s.calls ++ [.debugString ("A330_Skalarki: " ++ text ++ "\n")] } := rfl

@[simp] theorem run_setSocket (fd : Option ℕ) (s : PluginState) :
    (setSocket fd).run s = .ok () { s with comm := { s.comm with socket := fd } } := rfl

@[simp] theorem run_startThread (t : ThreadId) (s : PluginState) :
    (startThread t).run s = .ok () { s with
      comm := { s.comm with joinable := fun t' => if t' = t then true else s.comm.joinable t' }
      calls := s.calls ++ [.startThread t] } := rfl

/-- `Init` leaves a connection with two threads, or none. -/
theorem init_run (sys : SystemResults) (len : ℕ) {s : PluginState} (hs : s.comm = .initial) :
    ∃ r s', (init sys len).run s = .ok r s' ∧ s'.comm = afterInit sys ∧
      resources s'.calls = resources s.calls ++ initResources sys := by
  -- one case for each `return` of `Init`
  by_cases hwsa : sys.wsaStartup = 0
  · by_cases haddr : sys.getaddrinfo = 0
    · cases hsock : sys.socket with
      | none =>
        simp [-bind_pure_comp, init, hwsa, haddr, hsock, hs, initial, afterInit,
          SystemResults.connected, initResources]
      | some fd =>
        by_cases hconn : sys.connect = socketError
        · simp [-bind_pure_comp, init, hwsa, haddr, hsock, hconn, hs, initial, afterInit,
            SystemResults.connected, initResources]
        · simp [-bind_pure_comp, init, hwsa, haddr, hsock, hconn, hs, initial, afterInit,
            SystemResults.connected, initResources]
          funext t
          cases t <;> rfl
    · simp [-bind_pure_comp, init, hwsa, haddr, hs, initial, afterInit,
        SystemResults.connected, initResources]
  · simp [-bind_pure_comp, init, hwsa, hs, initial, afterInit, SystemResults.connected,
      initResources]

/-- Without threads, `Shutdown` ends the program at its first `join`. -/
theorem shutdown_run_of_not_joinable (result lastError : ℤ) {s : PluginState}
    (hs : s.comm.joinable .transmit = false) :
    ∃ s', (shutdown result lastError).run s = .error .terminate s' ∧
      resources s'.calls = resources s.calls ++ [.join .transmit false] := by
  simp [-bind_pure_comp, shutdown, join, hs]

/-- With both threads, `Shutdown` joins the first one at least, and closes the connection. It
does not reset the socket. -/
theorem shutdown_run_of_joinable (result lastError : ℤ) {s : PluginState} {fd : ℕ}
    (hs : s.comm = ⟨some fd, fun _ => true⟩) :
    ∃ r s', (shutdown result lastError).run s = .ok r s' ∧
      s'.comm.socket = some fd ∧ s'.comm.joinable .transmit = false ∧
      resources s'.calls = resources s.calls ++ (if result = socketError then
        [.join .transmit true, .closesocket fd, .wsaCleanup]
      else [.join .transmit true, .join .receive true, .closesocket fd, .wsaCleanup]) := by
  by_cases hresult : result = socketError
  · simp [-bind_pure_comp, shutdown, join, setJoinable, hs, hresult]
  · simp [-bind_pure_comp, shutdown, join, setJoinable, hs, hresult]

/-- After a `join` of the transmit thread, the destructor ends the program if a socket is left. -/
theorem destructor_run (result lastError : ℤ) {s : PluginState} {fd : ℕ}
    (hsocket : s.comm.socket = some fd) (hjoined : s.comm.joinable .transmit = false) :
    ∃ s', (destructor result lastError).run s = .error .terminate s' ∧
      resources s'.calls = resources s.calls ++ [.join .transmit false] := by
  obtain ⟨s', hrun, hcalls⟩ := shutdown_run_of_not_joinable result lastError hjoined
  refine ⟨s', ?_, hcalls⟩
  simp [-bind_pure_comp, destructor, hsocket, hrun]

end SkalarkiComm

/-! ## The three entry points -/

/-- Nothing happens to the connection, and no call is about resources. -/
structure KeepsConnection (s s' : PluginState) : Prop where
  comm : s'.comm = s.comm
  calls : resources s'.calls = resources s.calls

theorem KeepsConnection.refl (s : PluginState) : KeepsConnection s s := ⟨rfl, rfl⟩

theorem KeepsConnection.trans {s t u : PluginState} (h : KeepsConnection s t)
    (h' : KeepsConnection t u) : KeepsConnection s u :=
  ⟨h'.comm.trans h.comm, h'.calls.trans h.calls⟩

/-- Code that returns and keeps the connection. -/
def Keeps (m : PluginM Unit) : Prop :=
  ∀ s, ∃ s', m.run s = .ok () s' ∧ KeepsConnection s s'

theorem keeps_perform (a : Action Globals Effect) : Keeps (perform a) := by
  intro s
  exact ⟨_, run_perform a s, rfl, by simp⟩

theorem Keeps.bind {m n : PluginM Unit} (hm : Keeps m) (hn : Keeps n) :
    Keeps (m >>= fun _ => n) := by
  intro s
  obtain ⟨t, ht, hst⟩ := hm s
  obtain ⟨u, hu, htu⟩ := hn t
  exact ⟨u, by rw [EStateM.run_bind, ht]; exact hu, hst.trans htu⟩

theorem keeps_forM {α : Type} (as : List α) {f : α → PluginM Unit} (hf : ∀ a, Keeps (f a)) :
    Keeps (as.forM f) := by
  induction as with
  | nil => exact fun s => ⟨s, rfl, .refl s⟩
  | cons a as ih => exact (hf a).bind ih

/-- A call of the flight loop pushes and pops messages, and leaves sockets and threads alone. -/
theorem keeps_a330SkalarkiUpdate (hash : Bytes → UInt64) (loop : FlightLoop) :
    Keeps (a330SkalarkiUpdate hash loop) := by
  have hrest : Keeps (do
      loop.packets.forM fun p => perform (processPacket hash p.1 p.2)
      perform (update loop.env)) :=
    (keeps_forM _ fun p => keeps_perform _).bind (keeps_perform _)
  intro s
  cases hinit : s.datarefsInitialized with
  | true =>
    obtain ⟨t, ht, hst⟩ := hrest s
    refine ⟨t, ?_, hst⟩
    rw [← ht]
    simp [-bind_pure_comp, a330SkalarkiUpdate, hinit]
  | false =>
    -- the first call reads the datarefs before it does the same
    let s₁ : PluginState := { s with
      cmd := (initDatarefs loop.env₀ s.cmd).1
      calls := s.calls ++ (initDatarefs loop.env₀ s.cmd).2.map .effect
      datarefsInitialized := true }
    have hs₁ : KeepsConnection s s₁ := ⟨rfl, by simp [s₁]⟩
    obtain ⟨t, ht, hst⟩ := hrest s₁
    refine ⟨t, ?_, hs₁.trans hst⟩
    rw [← ht]
    simp [-bind_pure_comp, -initDatarefs_fst, a330SkalarkiUpdate, hinit, s₁]

/-- After `XPluginStart`, the connection is as `Init` leaves it. -/
theorem xPluginStart_run (sys : SystemResults) :
    ∃ s', (xPluginStart sys).run .initial = .ok () s' ∧
      s'.comm = SkalarkiComm.afterInit sys ∧ resources s'.calls = initResources sys := by
  obtain ⟨r, s', hrun, hcomm, hcalls⟩ := SkalarkiComm.init_run sys intBufLen
    (s := { PluginState.initial with calls := [.debugString "A330_Skalarki: Start...\n"] }) rfl
  refine ⟨{ s' with
    cmd := (SkalarkiFcu.init s'.cmd).1
    calls := s'.calls ++ (SkalarkiFcu.init s'.cmd).2.map .effect }, ?_, hcomm, ?_⟩
  · -- the result of `Init` is dropped, and the frames are pushed in any case
    show (SkalarkiComm.init sys intBufLen >>= fun _ => perform SkalarkiFcu.init).run
      { PluginState.initial with calls := [.debugString "A330_Skalarki: Start...\n"] } = _
    rw [EStateM.run_bind, hrun]
    rfl
  · simpa using hcalls

/-- What `XPluginStop` does about resources before the program ends. -/
def stopResources (sys : SystemResults) : List Call :=
  match sys.connected with
  | none => [.join .transmit false]
  | some fd => (if sys.shutdown = socketError then
      [.join .transmit true, .closesocket fd, .wsaCleanup]
    else [.join .transmit true, .join .receive true, .closesocket fd, .wsaCleanup]) ++
      [.join .transmit false]

theorem join_mem_stopResources (sys : SystemResults) :
    .join .transmit false ∈ stopResources sys := by
  rw [stopResources]
  split <;> simp

/-- `XPluginStop` ends the program. -/
theorem xPluginStop_run (sys : SystemResults) {s : PluginState}
    (hs : s.comm = SkalarkiComm.afterInit sys) :
    ∃ s', (xPluginStop sys).run s = .error .terminate s' ∧
      resources s'.calls = resources s.calls ++ stopResources sys := by
  have hstop : (xPluginStop sys).run s =
      (do
        let _ ← SkalarkiComm.shutdown sys.shutdown sys.wsaGetLastError
        SkalarkiComm.destructor sys.shutdownAgain sys.wsaGetLastError : PluginM Unit).run
          { s with datarefsInitialized := false } := rfl
  rw [hstop, EStateM.run_bind]
  -- the connection is as `Init` left it: no thread, or both
  cases hconn : sys.connected with
  | none =>
    obtain ⟨t, ht, hcalls⟩ := SkalarkiComm.shutdown_run_of_not_joinable sys.shutdown
      sys.wsaGetLastError (s := { s with datarefsInitialized := false })
      (by simp [hs, SkalarkiComm.afterInit, hconn])
    refine ⟨t, by rw [ht], ?_⟩
    rw [hcalls, stopResources, hconn]
  | some fd =>
    have hcomm : s.comm = ⟨some fd, fun _ => true⟩ := by
      simp [hs, SkalarkiComm.afterInit, hconn]
    obtain ⟨r, t, ht, hsocket, hjoined, hcalls⟩ := SkalarkiComm.shutdown_run_of_joinable
      sys.shutdown sys.wsaGetLastError (s := { s with datarefsInitialized := false }) hcomm
    obtain ⟨u, hu, hcalls'⟩ := SkalarkiComm.destructor_run sys.shutdownAgain sys.wsaGetLastError
      hsocket hjoined
    refine ⟨u, by rw [ht]; exact hu, ?_⟩
    rw [hcalls', hcalls, stopResources, hconn, List.append_assoc]

/-- **The resources of a life**, call by call. -/
theorem resources_lifecycleCalls (sys : SystemResults) (hash : Bytes → UInt64)
    (loops : List FlightLoop) : resources (lifecycleCalls sys hash loops) =
      initResources sys ++ stopResources sys := by
  obtain ⟨s, hs, hcomm, hcalls⟩ := xPluginStart_run sys
  obtain ⟨t, ht, hkeeps⟩ := keeps_forM loops (keeps_a330SkalarkiUpdate hash) s
  obtain ⟨u, hu, hcalls'⟩ := xPluginStop_run sys (hkeeps.comm.trans hcomm)
  -- the flight loop keeps the connection, and the stop ends the program
  have hlife : (lifecycle sys hash loops).run .initial = .error .terminate u := by
    rw [lifecycle, EStateM.run_bind, hs]
    show ((loops.forM (a330SkalarkiUpdate hash) >>= fun _ => xPluginStop sys).run s) = _
    rw [EStateM.run_bind, ht]
    exact hu
  have hend : lifecycleCalls sys hash loops = u.calls := by
    rw [lifecycleCalls, hlife]
  rw [hend, hcalls', hkeeps.calls, hcalls]

/-! ## Safety -/

/-- No thread is joined that is not joinable, none is destroyed that is, every socket is closed
once for every time it is opened, and every start of Winsock is cleaned up once. -/
structure LifecycleSafe (calls : List Call) : Prop where
  joins : ∀ t, .join t false ∉ calls
  destroys : ∀ t, .destroyThread t true ∉ calls
  sockets : ∀ fd, calls.count (.closesocket fd) = calls.count (.socket fd)
  cleanup : calls.count .wsaCleanup = calls.count .wsaStartup

theorem mem_calls_iff {c : Call} (hc : c.isResource = true) (calls : List Call) :
    c ∈ calls ↔ c ∈ resources calls := by
  rw [resources, List.mem_filter, and_iff_left hc]

theorem count_calls {c : Call} (hc : c.isResource = true) (calls : List Call) :
    calls.count c = (resources calls).count c := (List.count_filter hc).symm

/-- The five lives, by where the system calls fail. -/
theorem initResources_append_stopResources (sys : SystemResults) :
    initResources sys ++ stopResources sys = [.join .transmit false] ∨
    initResources sys ++ stopResources sys = [.wsaStartup, .wsaCleanup, .join .transmit false] ∨
    ∃ fd, initResources sys ++ stopResources sys =
        [.wsaStartup, .socket fd, .closesocket fd, .wsaCleanup, .join .transmit false] ∨
      initResources sys ++ stopResources sys =
        [.wsaStartup, .socket fd, .startThread .transmit, .startThread .receive,
          .join .transmit true, .closesocket fd, .wsaCleanup, .join .transmit false] ∨
      initResources sys ++ stopResources sys =
        [.wsaStartup, .socket fd, .startThread .transmit, .startThread .receive,
          .join .transmit true, .join .receive true, .closesocket fd, .wsaCleanup,
          .join .transmit false] := by
  by_cases hwsa : sys.wsaStartup = 0
  · by_cases haddr : sys.getaddrinfo = 0
    · cases hsock : sys.socket with
      | none =>
        simp [initResources, stopResources, SystemResults.connected, hwsa, haddr, hsock]
      | some fd =>
        refine .inr (.inr ⟨fd, ?_⟩)
        by_cases hconn : sys.connect = socketError
        · simp [initResources, stopResources, SystemResults.connected, hwsa, haddr, hsock, hconn]
        · -- a failed `shutdown` skips the join of the receive thread
          by_cases hdown : sys.shutdown = socketError <;>
            simp [initResources, stopResources, SystemResults.connected, hwsa, haddr, hsock,
              hconn, hdown]
    · simp [initResources, stopResources, SystemResults.connected, hwsa, haddr]
  · simp [initResources, stopResources, SystemResults.connected, hwsa]

/-- **Life cycle**: whatever the system calls return and the flight loop does, the life of the
plugin ends in a `join` of a transmit thread that is not joinable. Up to then no joinable thread
has been destroyed, and every socket and every start of Winsock has been closed once. -/
theorem not_lifecycleSafe (sys : SystemResults) (hash : Bytes → UInt64)
    (loops : List FlightLoop) :
    let calls := lifecycleCalls sys hash loops
    ¬ LifecycleSafe calls ∧ .join .transmit false ∈ calls ∧ .join .receive false ∉ calls ∧
      (∀ t, .destroyThread t true ∉ calls) ∧
      (∀ fd, calls.count (.closesocket fd) = calls.count (.socket fd)) ∧
      calls.count .wsaCleanup = calls.count .wsaStartup := by
  intro calls
  have hresources : resources calls = initResources sys ++ stopResources sys :=
    resources_lifecycleCalls sys hash loops
  have hmem : ∀ c : Call, c.isResource = true →
      (c ∈ calls ↔ c ∈ initResources sys ++ stopResources sys) := by
    intro c hc
    rw [mem_calls_iff hc, hresources]
  have hcount : ∀ c : Call, c.isResource = true →
      calls.count c = (initResources sys ++ stopResources sys).count c := by
    intro c hc
    rw [count_calls hc, hresources]
  have hjoin : .join .transmit false ∈ calls :=
    (hmem _ rfl).mpr (List.mem_append_right _ (join_mem_stopResources sys))
  have hshapes := initResources_append_stopResources sys
  refine ⟨fun h => h.joins .transmit hjoin, hjoin, ?_, fun t => ?_, fun fd' => ?_, ?_⟩
  -- each statement is checked on the five lives
  · rw [hmem _ rfl]
    rcases hshapes with h | h | ⟨fd, h | h | h⟩ <;> simp [h]
  · rw [hmem _ rfl]
    rcases hshapes with h | h | ⟨fd, h | h | h⟩ <;> simp [h]
  · rw [hcount _ rfl, hcount _ rfl]
    rcases hshapes with h | h | ⟨fd, h | h | h⟩ <;> simp [h, List.count_cons]
  · rw [hcount _ rfl, hcount _ rfl]
    rcases hshapes with h | h | ⟨fd, h | h | h⟩ <;> simp [h]

/-- A life in which every system call succeeds. -/
theorem not_lifecycleSafe_connected :
    ¬ ∀ (sys : SystemResults) (hash : Bytes → UInt64) (loops : List FlightLoop),
      LifecycleSafe (lifecycleCalls sys hash loops) := by
  intro h
  have hjoins := (h ⟨0, 0, some 3, 0, 0, 0, 0⟩ fnv1a []).joins .transmit
  rw [mem_calls_iff rfl, resources_lifecycleCalls] at hjoins
  exact hjoins (by decide)

end SkalarkiFcu
