import SkalarkiFcu.Plugin

/-!
# The stream to the panel

The panel receives `initBuf` and then every pushed message, as one stream of bytes that it has
to cut by the lengths in the headers. `Init` itself pushes two messages that are shorter than
their headers say, so that the stream of no run can be cut.

## Architecture

- **The catalogue**: `pushes_session`, which frames a run pushes
- **The literals**: `wellFramed_iff`, `len_le_iff`
- **The stream**: `not_streamFramed`
-/

namespace SkalarkiFcu

open LittleEndian Reactive

/-! ## The catalogue -/

/-- The frames that the plugin has: the backlights, and those for a target. -/
def Catalogued (f : Frame) : Prop := f ∈ backlights ∨ ∃ t : Target, t.Takes f

theorem pushes_started (env₀ : Datarefs) : pushes (started env₀).2 = backlights ++ openings ++
    [if env₀.gSpdManagedDataref = 0 then Dot.spd.onFrame else Dot.spd.offFrame] := by
  have hpushes : ∀ fs : List Frame, pushes (fs.map Effect.push) = fs := by
    intro fs
    induction fs with
    | nil => rfl
    | cons f fs ih => exact congrArg (f :: ·) ih
  rw [started_snd, hpushes]

theorem catalogued_started (env₀ : Datarefs) : ∀ f ∈ pushes (started env₀).2, Catalogued f := by
  have hopen : ∀ f ∈ openings, ∃ t : Target, t.Takes f := by
    intro f hf
    -- one opening for each window
    simp only [openings, List.mem_cons, List.not_mem_nil, or_false] at hf
    rcases hf with rfl | rfl | rfl | rfl | rfl | rfl
    · exact ⟨.window .hdg, _, by simp, rfl⟩
    · exact ⟨.window .alt, _, by simp, rfl⟩
    · exact ⟨.window .spd, _, by simp, rfl⟩
    · exact ⟨.window .vs, _, by simp, rfl⟩
    · exact ⟨.window .baroCpt, _, by simp, rfl⟩
    · exact ⟨.window .baroFo, _, by simp, rfl⟩
  intro f hf
  rw [pushes_started, List.mem_append, List.mem_append, List.mem_singleton] at hf
  rcases hf with (hf | hf) | rfl
  · exact .inl hf
  · exact .inr (hopen f hf)
  · -- the speed dot, on or off
    refine .inr ⟨.lamp (.dot .spd), ?_⟩
    split
    · exact .inl rfl
    · exact .inr rfl

/-- **Catalogue**: a run pushes catalogued frames only. -/
theorem pushes_session (hash : Bytes → UInt64) (env₀ : Datarefs) (events : List Event) :
    ∀ f ∈ pushes (session hash env₀ events).2, Catalogued f := by
  apply forall_pushes_session (catalogued_started env₀)
  intro env s f hf
  exact .inr (takes_of_pushes_update env s f hf)

/-! ## The literals -/

/-- The frames that are pushed with one byte more than their literals have. -/
def overrun : List Frame := [Annunciator.fdFo.onFrame, Annunciator.fdFo.offFrame]

/-- The frames that do not have the length of their headers: two that are shorter, and those
that are longer because they are pushed beyond their literals. -/
def misdeclared : List Frame :=
  [⟨sendbufBacklightOn, sendbufLenBacklightOn⟩, ⟨altLvlChngOn, altLvlChngOnLen⟩] ++ overrun

theorem Target.Takes.wellFramed {t : Target} {f : Frame} (h : t.Takes f) (hf : f ∉ overrun) :
    WellFramed f.message := by
  match t, h with
  | .window w, h =>
    -- a window frame has its length written from its text
    obtain ⟨text, hlen, rfl⟩ := h
    exact w.wellFramed_frame hlen
  | .lamp (.annunciator k), h =>
    -- lamp frames are literals: each is checked
    rcases h with rfl | rfl <;> cases k <;> first | decide | exact absurd (by decide) hf
  | .lamp (.dot d), h =>
    rcases h with rfl | rfl <;> cases d <;> decide

theorem Target.Takes.len_le {t : Target} {f : Frame} (h : t.Takes f) (hf : f ∉ overrun) :
    f.len ≤ f.literal.length := by
  match t, h with
  | .window w, h =>
    obtain ⟨text, -, rfl⟩ := h
    apply Nat.le_refl
  | .lamp (.annunciator k), h =>
    rcases h with rfl | rfl <;> cases k <;> first | decide | exact absurd (by decide) hf
  | .lamp (.dot d), h =>
    rcases h with rfl | rfl <;> cases d <;> decide

/-- A frame has the length of its header, unless it is one of the four. -/
theorem wellFramed_iff {f : Frame} (h : Catalogued f) :
    WellFramed f.message ↔ f ∉ misdeclared := by
  have hmis : ∀ f ∈ misdeclared, ¬ WellFramed f.message := by decide
  have hback : ∀ f ∈ backlights, f ∉ misdeclared → WellFramed f.message := by decide
  constructor
  · intro hf hmem
    exact hmis f hmem hf
  · intro hf
    rcases h with h | ⟨t, h⟩
    · exact hback f h hf
    · exact h.wellFramed fun hover => hf (List.mem_append_right _ hover)

/-- A push stays within its literal, unless it is one of the two. -/
theorem len_le_iff {f : Frame} (h : Catalogued f) :
    f.len ≤ f.literal.length ↔ f ∉ overrun := by
  have hover : ∀ f ∈ overrun, ¬ f.len ≤ f.literal.length := by decide
  have hback : ∀ f ∈ backlights, f.len ≤ f.literal.length := by decide
  constructor
  · intro hf hmem
    exact hover f hmem hf
  · intro hf
    rcases h with h | ⟨t, h⟩
    · exact hback f h
    · exact h.len_le hf

/-! ## The stream -/

/-- The buffers that are handed to `send`, in order: `first_buffer`, and then every message. -/
def sendBuffers (initBuf : InitFrame) (es : List Effect) : List Bytes :=
  initBuf.bytes :: (pushes es).map Frame.message

/-- The stream of all buffers can be cut back into them, and no message is longer than its
literal. -/
def StreamFramed (initBuf : InitFrame) (es : List Effect) : Prop :=
  Framing.split (declaredLength 12) (sendBuffers initBuf es).flatten =
      some (sendBuffers initBuf es) ∧
    ∀ f ∈ pushes es, f.len ≤ f.literal.length

theorem Catalogued.four_le {f : Frame} (h : Catalogued f) : 4 ≤ f.message.length := by
  by_cases hf : f ∈ misdeclared
  · have hmis : ∀ f ∈ misdeclared, 4 ≤ f.message.length := by decide
    exact hmis f hf
  · have hlen := ((wellFramed_iff h).mpr hf).twelve_le
    omega

/-- The stream can be cut exactly if no misdeclared frame is pushed. -/
theorem split_sendBuffers_iff (initBuf : InitFrame) {es : List Effect}
    (h : ∀ f ∈ pushes es, Catalogued f) :
    Framing.split (declaredLength 12) (sendBuffers initBuf es).flatten =
      some (sendBuffers initBuf es) ↔ ∀ f ∈ pushes es, f ∉ misdeclared := by
  have hlen : ∀ m ∈ sendBuffers initBuf es, 4 ≤ m.length := by
    intro m hm
    rcases List.mem_cons.mp hm with rfl | hm
    · exact Nat.le_trans (by decide) initBuf.wellFramed.twelve_le
    · obtain ⟨f, hf, rfl⟩ := List.mem_map.mp hm
      exact (h f hf).four_le
  rw [Framing.split_flatten_iff (declaredLength_head 12) (by decide) hlen]
  -- the first buffer is well framed, so the pushed messages decide
  constructor
  · intro hall f hf
    exact (wellFramed_iff (h f hf)).mp (hall _ (List.mem_cons_of_mem _ (List.mem_map_of_mem hf)))
  · intro hall m hm
    rcases List.mem_cons.mp hm with rfl | hm
    · exact initBuf.wellFramed
    · obtain ⟨f, hf, rfl⟩ := List.mem_map.mp hm
      exact (wellFramed_iff (h f hf)).mpr (hall f hf)

/-- What the start has pushed stays in the stream. -/
theorem mem_pushes_session {hash : Bytes → UInt64} {env₀ : Datarefs} (events : List Event)
    {f : Frame} (hf : f ∈ backlights) : f ∈ pushes (session hash env₀ events).2 := by
  obtain ⟨es, hes⟩ := run_snd_prefix (Event.step hash) (started env₀) events
  rw [session, ← hes, pushes_append, List.mem_append, pushes_started]
  exact .inl (List.mem_append_left _ (List.mem_append_left _ hf))

/-- **The stream of a run** cannot be cut, whatever the panel and the simulator do: `Init` has
pushed two frames that are too short. Of the other frames, those of the first officer's flight
director alone are too long for their headers and for their literals. -/
theorem not_streamFramed (initBuf : InitFrame) (hash : Bytes → UInt64) (env₀ : Datarefs)
    (events : List Event) :
    let es := (session hash env₀ events).2
    ¬ StreamFramed initBuf es ∧
      (∀ f ∈ pushes es, WellFramed f.message ↔ f ∉ misdeclared) ∧
      ∀ f ∈ pushes es, f.len ≤ f.literal.length ↔ f ∉ overrun := by
  intro es
  have hcat := pushes_session hash env₀ events
  refine ⟨?_, fun f hf => wellFramed_iff (hcat f hf), fun f hf => len_le_iff (hcat f hf)⟩
  rintro ⟨hsplit, -⟩
  -- the backlight frame is one of the two
  have hback : ⟨sendbufBacklightOn, sendbufLenBacklightOn⟩ ∈ pushes es :=
    mem_pushes_session events (by decide)
  exact (split_sendBuffers_iff initBuf hcat).mp hsplit _ hback (by decide)

/-- A first buffer with nothing behind its header. -/
def InitFrame.blank : InitFrame where
  bytes := le32 0x4a44 ++ List.replicate (intBufLen - 4) 0
  length_eq := by
    rw [List.length_append, length_le32, List.length_replicate, intBufLen]
  header_eq := by
    rw [readWord_le32 (by decide), Option.map_some]

/-- A run that ends after its start. -/
theorem not_streamFramed_started :
    ¬ ∀ (initBuf : InitFrame) (hash : Bytes → UInt64) (env₀ : Datarefs) (events : List Event),
      StreamFramed initBuf (session hash env₀ events).2 := by
  intro h
  obtain ⟨hsplit, -⟩ := h .blank fnv1a .zero []
  have hcat := pushes_session fnv1a .zero []
  exact (split_sendBuffers_iff .blank hcat).mp hsplit
    ⟨sendbufBacklightOn, sendbufLenBacklightOn⟩ (mem_pushes_session [] (by decide)) (by decide)

end SkalarkiFcu
