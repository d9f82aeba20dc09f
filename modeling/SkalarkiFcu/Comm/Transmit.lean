import SkalarkiFcu.Library.Transition
import SkalarkiFcu.Globals

/-!
# The transmit queue

`PushMessage` fills the transmit queue, `TransmitThread` empties it into the socket, and
`Shutdown` stops the thread; a semaphore counts the messages. Every interleaving of the three
keeps the messages in order, and neither the queue nor the shutdown leaves the thread asleep.

The steps are those between which another thread can run: the locked section of `PushMessage`,
the loop test, the `acquire` and the locked section of `TransmitThread`, and the stores and the
`release` of `Shutdown`. The semaphore has no upper bound here.

## Architecture

- **State and steps**: `TransmitState`, `TransmitAction.step`
- **Inversion**: `transmitThread_cases`, `shutdown_cases`, `pushMessage_cases`
- **Invariant**: `TransmitState.Inv`, preserved by `TransmitAction.inv_step`
-/

namespace SkalarkiFcu

/-! ## State -/

/-- Where `TransmitThread` is. -/
inductive TransmitPc where
  /-- Before the test of `_stopTransmit`. -/
  | test
  /-- Before `_semaphoreTx.acquire()`. -/
  | acquire
  /-- Acquired, before the locked section. -/
  | locked
  | exited
  deriving DecidableEq, Repr

/-- Where `Shutdown` is, up to the join. -/
inductive ShutdownPc where
  | stopTransmit | stopReceive | release | join
  deriving DecidableEq, Repr

/-- The members of `SkalarkiComm` that have to do with the transmission, where the two threads
are, and what has happened so far. -/
structure TransmitState where
  messageQueueTx : List SkalarkiMessage
  semaphoreTx : ℕ
  stopTransmit : Bool
  stopReceive : Bool
  txMessageCount : ℕ
  thread : TransmitPc
  shutdown : ShutdownPc
  /-- The messages that `PushMessage` accepted, in order. -/
  accepted : List SkalarkiMessage
  /-- The messages that were handed to `send`, in order. -/
  sent : List SkalarkiMessage
  /-- `Shutdown` has released the semaphore and no empty locked section has used it up. -/
  token : Bool
  deriving DecidableEq

/-- After a successful `Init`, the thread has started and nothing is queued. -/
def TransmitState.initial : TransmitState where
  messageQueueTx := []
  semaphoreTx := 0
  stopTransmit := false
  stopReceive := false
  txMessageCount := 0
  thread := .test
  shutdown := .stopTransmit
  accepted := []
  sent := []
  token := false

/-! ## Steps -/

namespace TransmitState

/-- `PushMessage`, with a length that the checks refuse or with a locked push and release. -/
def pushMessage (f : Frame) (s : TransmitState) : TransmitState :=
  -- a message that is too long or empty is only reported
  if h : skalarkiMessageMaxLength < f.len then s
  else if f.len = 0 then s
  else { s with
    messageQueueTx := s.messageQueueTx ++ [queued f (Nat.not_lt.mp h)]
    semaphoreTx := s.semaphoreTx + 1
    accepted := s.accepted ++ [queued f (Nat.not_lt.mp h)] }

/-- The next step of `TransmitThread`; `none` while `acquire` blocks and after the loop. -/
def transmitThread (s : TransmitState) : Option TransmitState :=
  match s.thread with
  | .test => some { s with thread := if s.stopTransmit = false then .acquire else .exited }
  | .acquire =>
    if s.semaphoreTx = 0 then none
    else some { s with semaphoreTx := s.semaphoreTx - 1, thread := .locked }
  | .locked =>
    match s.messageQueueTx with
    | msg :: rest => some { s with
        messageQueueTx := rest
        sent := s.sent ++ [msg]
        txMessageCount := s.txMessageCount + 1
        thread := .test }
    -- woken by `Shutdown`: the queue is empty and nothing is sent
    | [] => some { s with token := false, thread := .test }
  | .exited => none

/-- The next step of `Shutdown`, up to the join. -/
def shutdownStep (s : TransmitState) : Option TransmitState :=
  match s.shutdown with
  | .stopTransmit => some { s with stopTransmit := true, shutdown := .stopReceive }
  | .stopReceive => some { s with stopReceive := true, shutdown := .release }
  | .release => some { s with
      semaphoreTx := s.semaphoreTx + 1, token := true, shutdown := .join }
  | .join => none

/-- `Shutdown` has released the semaphore. -/
def Released (s : TransmitState) : Prop := s.shutdown = .join

/-- The thread has acquired and not yet done its locked section. -/
def held (s : TransmitState) : ℕ := if s.thread = .locked then 1 else 0

end TransmitState

/-- Who takes the next step. -/
inductive TransmitAction where
  | pushMessage (f : Frame)
  | transmitThread
  | shutdown

def TransmitAction.step : TransmitAction → TransmitState → Option TransmitState
  | .pushMessage f, s => some (s.pushMessage f)
  | .transmitThread, s => s.transmitThread
  | .shutdown, s => s.shutdownStep

/-- Every interleaving of the pushes, the thread and one shutdown. -/
def transmitSystem : TransitionSystem TransmitState where
  init s := s = .initial
  next s t := ∃ a : TransmitAction, a.step s = some t

/-! ## What a step can do -/

namespace TransmitState

variable {s t : TransmitState}

theorem pushMessage_cases (f : Frame) (s : TransmitState) : s.pushMessage f = s ∨
    ∃ m, s.pushMessage f = { s with
      messageQueueTx := s.messageQueueTx ++ [m]
      semaphoreTx := s.semaphoreTx + 1
      accepted := s.accepted ++ [m] } := by
  by_cases h : skalarkiMessageMaxLength < f.len
  · exact .inl (dif_pos h)
  · by_cases hzero : f.len = 0
    · exact .inl ((dif_neg h).trans (if_pos hzero))
    · exact .inr ⟨_, (dif_neg h).trans (if_neg hzero)⟩

theorem transmitThread_cases (h : s.transmitThread = some t) :
    (s.thread = .test ∧ s.stopTransmit = false ∧ t = { s with thread := .acquire }) ∨
    (s.thread = .test ∧ s.stopTransmit = true ∧ t = { s with thread := .exited }) ∨
    (∃ n, s.thread = .acquire ∧ s.semaphoreTx = n + 1 ∧
      t = { s with semaphoreTx := n, thread := .locked }) ∨
    (∃ msg rest, s.thread = .locked ∧ s.messageQueueTx = msg :: rest ∧
      t = { s with
        messageQueueTx := rest
        sent := s.sent ++ [msg]
        txMessageCount := s.txMessageCount + 1
        thread := .test }) ∨
    (s.thread = .locked ∧ s.messageQueueTx = [] ∧
      t = { s with token := false, thread := .test }) := by
  -- by the place of the thread, and there by what it tests
  cases hpc : s.thread with
  | test =>
    simp only [transmitThread, hpc, Option.some.injEq] at h
    cases hstop : s.stopTransmit with
    | false => exact .inl ⟨rfl, rfl, by rw [← h, hstop, if_pos rfl]⟩
    | true => exact .inr (.inl ⟨rfl, rfl, by rw [← h, hstop]; rfl⟩)
  | acquire =>
    cases hsem : s.semaphoreTx with
    | zero => simp [transmitThread, hpc, hsem] at h
    | succ n =>
      refine .inr (.inr (.inl ⟨n, rfl, rfl, ?_⟩))
      simpa [transmitThread, hpc, hsem] using h.symm
  | locked =>
    cases hqueue : s.messageQueueTx with
    | nil =>
      refine .inr (.inr (.inr (.inr ⟨rfl, rfl, ?_⟩)))
      simpa [transmitThread, hpc, hqueue] using h.symm
    | cons msg rest =>
      refine .inr (.inr (.inr (.inl ⟨msg, rest, rfl, rfl, ?_⟩)))
      simpa [transmitThread, hpc, hqueue] using h.symm
  | exited => simp [transmitThread, hpc] at h

theorem shutdownStep_cases (h : s.shutdownStep = some t) :
    (s.shutdown = .stopTransmit ∧
      t = { s with stopTransmit := true, shutdown := .stopReceive }) ∨
    (s.shutdown = .stopReceive ∧ t = { s with stopReceive := true, shutdown := .release }) ∨
    (s.shutdown = .release ∧
      t = { s with semaphoreTx := s.semaphoreTx + 1, token := true, shutdown := .join }) := by
  cases hpc : s.shutdown with
  | stopTransmit => exact .inl ⟨rfl, by simpa [shutdownStep, hpc] using h.symm⟩
  | stopReceive => exact .inr (.inl ⟨rfl, by simpa [shutdownStep, hpc] using h.symm⟩)
  | release => exact .inr (.inr ⟨rfl, by simpa [shutdownStep, hpc] using h.symm⟩)
  | join => simp [shutdownStep, hpc] at h

/-! ## The invariant -/

/-- The counting invariant, and the order of the shutdown that it needs. -/
structure Inv (s : TransmitState) : Prop where
  /-- What was sent and what is queued is what was accepted. -/
  fifo : s.sent ++ s.messageQueueTx = s.accepted
  /-- The semaphore counts the queue, the token and what the thread holds. -/
  counted : s.semaphoreTx + s.held = s.messageQueueTx.length + s.token.toNat
  token_released : s.token = true → s.Released
  stopped : s.shutdown ≠ .stopTransmit → s.stopTransmit = true
  /-- Once the token is used up, the thread does not come back to `acquire`. -/
  used_up : s.Released → s.token = false → s.thread = .test ∨ s.thread = .exited

theorem inv_initial : Inv .initial where
  fifo := rfl
  counted := rfl
  token_released := by simp [initial]
  stopped := by simp [initial]
  used_up := by simp [initial, Released]

/-- A thread that finds the queue empty holds the token. -/
theorem Inv.token_of_empty (h : s.Inv) (hpc : s.thread = .locked)
    (hqueue : s.messageQueueTx = []) : s.token = true := by
  have hcounted := h.counted
  cases htoken : s.token with
  | true => rfl
  | false => simp [held, hpc, hqueue, htoken] at hcounted

/-- After the release, the thread does not sleep: the token is still there. -/
theorem Inv.awake (h : s.Inv) (hrel : s.Released) :
    ¬ (s.thread = .acquire ∧ s.semaphoreTx = 0) := by
  rintro ⟨hpc, hsem⟩
  -- a thread at `acquire` has not used the token up, and a token is counted by the semaphore
  cases htoken : s.token with
  | false =>
    rcases h.used_up hrel htoken with h' | h' <;> rw [hpc] at h' <;> cases h'
  | true =>
    have hcounted := h.counted
    simp only [held, hpc, hsem, htoken, reduceCtorEq, if_false, Bool.toNat_true] at hcounted
    omega

theorem Inv.pushMessage (h : s.Inv) (f : Frame) : (s.pushMessage f).Inv := by
  rcases s.pushMessage_cases f with heq | ⟨m, heq⟩
  · rw [heq]
    exact h
  · rw [heq]
    have hcounted := h.counted
    refine ⟨?_, ?_, h.token_released, h.stopped, h.used_up⟩
    · rw [← h.fifo, List.append_assoc]
    · simp only [held, List.length_append, List.length_singleton] at hcounted ⊢
      omega

theorem Inv.transmitThread (h : s.Inv) (ht : s.transmitThread = some t) : t.Inv := by
  have hcounted := h.counted
  rcases transmitThread_cases ht with ⟨hpc, hstop, rfl⟩ | ⟨hpc, hstop, rfl⟩ |
    ⟨n, hpc, hsem, rfl⟩ | ⟨msg, rest, hpc, hqueue, rfl⟩ | ⟨hpc, hqueue, rfl⟩
  · -- the loop goes on, so `Shutdown` has not begun
    have hidle : s.shutdown = .stopTransmit := by
      by_contra hne
      rw [h.stopped hne] at hstop
      cases hstop
    refine ⟨h.fifo, ?_, h.token_released, h.stopped, fun hrel => ?_⟩
    · simpa [held, hpc] using hcounted
    · rw [Released, hidle] at hrel
      cases hrel
  · refine ⟨h.fifo, ?_, h.token_released, h.stopped, fun _ _ => .inr rfl⟩
    simpa [held, hpc] using hcounted
  · refine ⟨h.fifo, ?_, h.token_released, h.stopped, fun hrel htoken => ?_⟩
    · simpa [held, hpc, hsem] using hcounted
    · rcases h.used_up hrel htoken with h' | h' <;> rw [hpc] at h' <;> cases h'
  -- a message leaves the queue, and the hold on it ends
  · refine ⟨?_, ?_, h.token_released, h.stopped, fun _ _ => .inl rfl⟩
    · rw [← h.fifo, hqueue, List.append_assoc]
      rfl
    · simp only [held, hpc, hqueue, if_true, List.length_cons] at hcounted
      simp only [held, reduceCtorEq, if_false]
      omega
  -- an empty section: what the thread held was the token
  · have htoken := h.token_of_empty hpc hqueue
    refine ⟨h.fifo, ?_, by simp, h.stopped, fun _ _ => .inl rfl⟩
    simpa [held, hpc, hqueue, htoken] using hcounted

theorem Inv.shutdownStep (h : s.Inv) (ht : s.shutdownStep = some t) : t.Inv := by
  have hcounted := h.counted
  -- up to the release there is no token
  have htoken : s.shutdown ≠ .join → s.token = false := by
    intro hne
    by_contra htoken
    exact hne (h.token_released (by simpa using htoken))
  rcases shutdownStep_cases ht with ⟨hpc, rfl⟩ | ⟨hpc, rfl⟩ | ⟨hpc, rfl⟩
  · have htoken := htoken (by simp [hpc])
    exact ⟨h.fifo, hcounted, by simp [htoken], by simp, by simp [Released]⟩
  · have htoken := htoken (by simp [hpc])
    exact ⟨h.fifo, hcounted, by simp [htoken], fun _ => h.stopped (by simp [hpc]),
      by simp [Released]⟩
  · have htoken := htoken (by simp [hpc])
    refine ⟨h.fifo, ?_, by simp [Released], fun _ => h.stopped (by simp [hpc]), by simp⟩
    simp only [held, htoken, Bool.toNat_false, Bool.toNat_true] at hcounted ⊢
    omega

end TransmitState

/-- Every step keeps the invariant. -/
theorem TransmitAction.inv_step {s t : TransmitState} (h : s.Inv) {a : TransmitAction}
    (ht : a.step s = some t) : t.Inv := by
  cases a with
  | pushMessage f =>
    obtain rfl : s.pushMessage f = t := Option.some.inj ht
    exact h.pushMessage f
  | transmitThread => exact h.transmitThread ht
  | shutdown => exact h.shutdownStep ht

theorem transmitSystem_inv {s : TransmitState} (h : transmitSystem.Reachable s) : s.Inv := by
  apply h.invariant
  · rintro s rfl
    exact TransmitState.inv_initial
  · rintro s t hs ⟨a, ha⟩
    exact a.inv_step hs ha

/-! ## The transmission -/

/-- What the transmission promises in a state. -/
structure TransmitSafe (s : TransmitState) : Prop where
  /-- Nothing is lost, duplicated or reordered. -/
  fifo : s.sent ++ s.messageQueueTx = s.accepted
  /-- The semaphore and what the thread holds make up the queue and the token. -/
  counted : s.semaphoreTx + s.held = s.messageQueueTx.length + s.token.toNat
  /-- There is no token before the release. -/
  token_released : s.token = true → s.Released
  /-- Before the release, the thread sleeps only over an empty queue. -/
  asleep_empty : ¬ s.Released → s.thread = .acquire → s.semaphoreTx = 0 → s.messageQueueTx = []
  /-- The locked section finds the queue empty only after the release. -/
  empty_released : s.thread = .locked → s.messageQueueTx = [] → s.Released
  /-- After the release, the thread does not sleep. -/
  awake : s.Released → ¬ (s.thread = .acquire ∧ s.semaphoreTx = 0)

/-- **Transmission**: every interleaving of pushes, the thread and one shutdown is safe. -/
theorem transmitSafe_of_reachable {s : TransmitState} (h : transmitSystem.Reachable s) :
    TransmitSafe s := by
  have hinv := transmitSystem_inv h
  refine ⟨hinv.fifo, hinv.counted, hinv.token_released, fun _ hpc hsem => ?_,
    fun hpc hqueue => hinv.token_released (hinv.token_of_empty hpc hqueue), hinv.awake⟩
  -- an empty semaphore and nothing held leave no message to count
  have hlen : s.messageQueueTx.length = 0 := by
    have hcounted := hinv.counted
    simp only [TransmitState.held, hpc, hsem, reduceCtorEq, if_false] at hcounted
    omega
  exact List.eq_nil_of_length_eq_zero hlen

/-- A message is queued, and the thread acquires it after `Shutdown` has stored its flags. -/
theorem transmitSafe_stop_while_acquiring :
    TransmitSafe { TransmitState.initial.pushMessage ⟨spdOn, spdOnLen⟩ with
      semaphoreTx := 0, thread := .locked, stopTransmit := true, shutdown := .stopReceive } := by
  apply transmitSafe_of_reachable
  have hpush : transmitSystem.Reachable (TransmitState.initial.pushMessage ⟨spdOn, spdOnLen⟩) :=
    .step (.start rfl) ⟨.pushMessage ⟨spdOn, spdOnLen⟩, rfl⟩
  have htest := hpush.step ⟨.transmitThread, rfl⟩
  have hstop := htest.step ⟨.shutdown, rfl⟩
  exact hstop.step ⟨.transmitThread, rfl⟩

/-- The accepted messages are those that the plugin records as pushed. -/
theorem accepted_pushMessage (f : Frame) (s : TransmitState) :
    (s.pushMessage f).accepted.map SkalarkiMessage.msg =
      s.accepted.map SkalarkiMessage.msg ++ (pushes (pushMessage f)).map Frame.message := by
  by_cases h : skalarkiMessageMaxLength < f.len
  · simp [TransmitState.pushMessage, pushMessage, h, pushes, Effect.frame?]
  · by_cases hzero : f.len = 0
    · simp [TransmitState.pushMessage, pushMessage, hzero, pushes, Effect.frame?]
    · simp [TransmitState.pushMessage, pushMessage, h, hzero, pushes, Effect.frame?, queued]

/-! ## The end of the thread -/

/-- How many steps the thread still takes once it has been told to stop. -/
def TransmitPc.stepsToExit : TransmitPc → ℕ
  | .acquire => 3
  | .locked => 2
  | .test => 1
  | .exited => 0

/-- **No hang**: after the release, the thread can always take its next step, and it is at its
end after three steps at most, whatever is pushed in between. -/
theorem transmitThread_exits {s : TransmitState} (h : transmitSystem.Reachable s)
    (hrel : s.Released) (hpc : s.thread ≠ .exited) :
    ∃ t, s.transmitThread = some t ∧ t.Released ∧
      t.thread.stepsToExit < s.thread.stepsToExit := by
  have hinv := transmitSystem_inv h
  have hstop : s.stopTransmit = true := by
    apply hinv.stopped
    rw [hrel]
    exact ShutdownPc.noConfusion
  cases hthread : s.thread with
  | test =>
    refine ⟨{ s with thread := .exited }, ?_, hrel, by simp [TransmitPc.stepsToExit]⟩
    simp [TransmitState.transmitThread, hthread, hstop]
  | acquire =>
    -- the release of `Shutdown` is still there
    have hsem : s.semaphoreTx ≠ 0 := fun hsem => hinv.awake hrel ⟨hthread, hsem⟩
    refine ⟨{ s with semaphoreTx := s.semaphoreTx - 1, thread := .locked }, ?_, hrel,
      by simp [TransmitPc.stepsToExit]⟩
    simp [TransmitState.transmitThread, hthread, hsem]
  | locked =>
    -- whether or not there is a message, the section leads back to the test
    cases hqueue : s.messageQueueTx with
    | nil =>
      refine ⟨{ s with token := false, thread := .test }, ?_, hrel,
        by simp [TransmitPc.stepsToExit]⟩
      simp [TransmitState.transmitThread, hthread, hqueue]
    | cons msg rest =>
      refine ⟨{ s with
        messageQueueTx := rest
        sent := s.sent ++ [msg]
        txMessageCount := s.txMessageCount + 1
        thread := .test }, ?_, hrel, by simp [TransmitPc.stepsToExit]⟩
      simp [TransmitState.transmitThread, hthread, hqueue]
  | exited => exact absurd hthread hpc

end SkalarkiFcu
