import SkalarkiFcu.Baro

/-!
# The two sides

The captain's and the first officer's barometer are written out twice in the source, each over
its own globals, datarefs and literals. `baroPipeline` is what they have in common: one
barometer that emits texts and knows no address. Each side is this pipeline with its texts put
into the frames of its window, so that nothing but the readings of a side decides about its
frames, and the two sides differ in the address only.

## Architecture

- **The pipeline**: `baroPipeline`, and `Update.baro_eq_mapEffects`
- **Runs**: `framesPerUpdate_eq`, the frames of one side from the readings of that side
- **Renaming**: `Effect.renamed`, the address of one side for that of the other
-/

namespace SkalarkiFcu

open LittleEndian Reactive Truncation

/-! ## The pipeline -/

/-- The STD knob, with the text that it shows. -/
def stdTexts (d : BaroDatarefs) : Action Baro Bytes := fun b =>
  if b.baroStd = trunc d.std then ({ b with baroStdSet := trunc d.std }, [])
  else if trunc d.std = 1 then
    ({ b with baroStdSet := trunc d.std, baroStd := trunc d.std }, [stdText])
  else ({ b with baroStdSet := trunc d.std, baroStd := trunc d.std, baroDisplay := 0 }, [])

/-- The setting, with the text that it shows. -/
def settingTexts (d : BaroDatarefs) : Action Baro Bytes := fun b =>
  let n := Update.baroDisplayNew d b.baroMode
  if b.baroStd = 0 ∧ b.baroDisplay ≠ n then
    ({ b with baroDisplay := n }, [displayText b.baroMode n])
  else (b, [])

/-- One barometer, without an address. -/
def baroPipeline (d : BaroDatarefs) : Action Baro Bytes :=
  .block [fun b => (Update.baroUnit d b, []), stdTexts d, settingTexts d]

namespace Update

variable {bufs : BaroBuffers} {w : Window} (hbufs : bufs.For w) (d : BaroDatarefs)

include hbufs

theorem baroStd_eq_mapEffects :
    baroStd bufs d = (stdTexts d).mapEffects fun text => .push (w.frame text) := by
  funext b
  simp only [baroStd, stdTexts, Action.mapEffects, hbufs.std, ne_eq, ite_not]
  split_ifs <;> rfl

theorem baroSetting_eq_mapEffects :
    baroSetting bufs d = (settingTexts d).mapEffects fun text => .push (w.frame text) := by
  funext b
  rw [baroSetting_for d b bufs hbufs]
  simp only [settingTexts, Action.mapEffects]
  split_ifs <;> rfl

/-- **Each side is the pipeline**, with its texts in the frames of its window. -/
theorem baro_eq_mapEffects :
    baro bufs d = (baroPipeline d).mapEffects fun text => .push (w.frame text) := by
  rw [baro, baroPipeline, Action.mapEffects_block, baroStd_eq_mapEffects hbufs,
    baroSetting_eq_mapEffects hbufs]
  rfl

end Update

/-- The texts of the pipeline fit into a frame. -/
theorem length_baroPipeline (d : BaroDatarefs) (b : Baro) :
    ∀ text ∈ (baroPipeline d b).2, text.length < 256 := by
  have hstd : ∀ b, ∀ text ∈ (stdTexts d b).2, text.length < 256 := by
    intro b
    simp only [stdTexts]
    split_ifs <;> simp
  have hsetting : ∀ b, ∀ text ∈ (settingTexts d b).2, text.length < 256 := by
    intro b
    simp only [settingTexts]
    split_ifs <;> simp [length_displayText]
  intro text htext
  -- the unit part pushes nothing, so that two kinds of texts are left
  simp only [baroPipeline, Action.block_cons, Action.block_nil, Action.seq_snd, Action.skip_apply,
    List.nil_append, List.append_nil, List.mem_append] at htext
  rcases htext with h | h
  · exact hstd _ text h
  · exact hsetting _ text h

/-! ## Runs -/

def Event.isUpdate : Event → Bool
  | .packet _ _ => false
  | .update _ => true

/-- The frames for a target that each update of a run pushes, from the first to the last. -/
def framesPerUpdate (hash : Bytes → UInt64) (t : Target) (env₀ : Datarefs)
    (events : List Event) : List (List Effect) :=
  (outputsOf Event.isUpdate (Event.step hash) (started env₀).1 events).map (framesFor t)

/-- What an event reads of one side. -/
def Side.reading (side : Side) : Event → Option BaroDatarefs
  | .packet _ _ => none
  | .update env => some (side.datarefs env)

/-- What a run reads of one side after the start, update by update. -/
def Side.readings (side : Side) (events : List Event) : List BaroDatarefs :=
  events.filterMap side.reading

theorem Side.baro_processPacket (side : Side) (hash : Bytes → UInt64) (env : Datarefs)
    (recvbuf : Bytes) (s : Globals) :
    side.baro (processPacket hash env recvbuf s).1 = side.baro s := by
  obtain ⟨_, _, _, _, _, _, h⟩ := processPacket_dialled hash env recvbuf s
  rw [h]
  cases side <;> rfl

/-- Every frame of a side is for its window. -/
theorem Side.framesFor_pipeline (side : Side) (d : BaroDatarefs) (b : Baro) :
    framesFor (.window side.window) (Update.baro side.buffers d b).2 =
      (baroPipeline d b).2.map fun text => .push (side.window.frame text) := by
  rw [Update.baro_eq_mapEffects side.buffers_for, Action.mapEffects, framesFor,
    List.filter_eq_self]
  intro e he
  obtain ⟨text, htext, rfl⟩ := List.mem_map.mp he
  rw [aims_frame _ _ (length_baroPipeline d b text htext)]
  simp

theorem started_baro (env₀ : Datarefs) (side : Side) :
    side.baro (started env₀).1 = InitDatarefs.baro (side.datarefs env₀) .initial := by
  rw [started_fst]
  cases side <;> rfl

/-- **The frames of one side** are those of the pipeline on the readings of that side, whatever
else the run reads and receives. -/
theorem framesPerUpdate_eq (side : Side) (hash : Bytes → UInt64) (env₀ : Datarefs)
    (events : List Event) :
    framesPerUpdate hash (.window side.window) env₀ events =
      (outputs baroPipeline (InitDatarefs.baro (side.datarefs env₀) .initial)
        (side.readings events)).map (List.map fun text => .push (side.window.frame text)) := by
  rw [← started_baro, ← outputs_mapEffects]
  apply outputsOf_eq_outputs
  · intro e
    cases e <;> rfl
  · -- a packet moves neither the globals of the side nor its window
    intro e s h
    cases e with
    | packet env recvbuf => exact side.baro_processPacket hash env recvbuf s
    | update env => simp [Side.reading] at h
  · intro e s d h
    cases e with
    | packet env recvbuf => simp [Side.reading] at h
    | update env =>
      -- an update runs the pipeline, with its texts framed for this window
      obtain rfl : side.datarefs env = d := Option.some.inj h
      refine ⟨?_, (side.framesFor_update env s).trans (side.framesFor_pipeline _ _)⟩
      rw [Event.step_update, side.baro_update, Update.baro_eq_mapEffects side.buffers_for]

/-! ## Renaming -/

/-- The device and the digits of the captain's barometer, as those of the first officer's. -/
def DisplayFrame.renamed (d : DisplayFrame) : DisplayFrame := { d with
  device := if d.device = 0x0e then 0x0f else d.device
  ids := d.ids.map fun i => if 0x10 ≤ i ∧ i ≤ 0x13 then i + 4 else i }

/-- A pushed display frame with the address renamed. -/
def Effect.renamed : Effect → Effect
  | .push f =>
    match readDisplayFrame f.message with
    | some d => .push ⟨d.renamed.bytes, d.renamed.bytes.length⟩
    | none => .push f
  | e => e

theorem Window.renamed_display (text : Bytes) :
    (Window.baroCpt.display text).renamed = Window.baroFo.display text := rfl

theorem renamed_push_frame {text : Bytes} (h : text.length < 256) :
    Effect.renamed (.push (Window.baroCpt.frame text)) = .push (Window.baroFo.frame text) := by
  rw [Effect.renamed, Window.readDisplayFrame_frame _ h]
  simp only [Window.renamed_display]
  rfl

/-- **The two sides are the same**: if the first officer's readings in one run are the captain's
in another, then so are the frames, update by update, up to the address. -/
theorem framesPerUpdate_fo {hash hash' : Bytes → UInt64} {env₀ env₀' : Datarefs}
    {events events' : List Event} (hstart : env₀.baroFo = env₀'.baroCpt)
    (hreadings : Side.fo.readings events = Side.cpt.readings events') :
    framesPerUpdate hash (.window .baroFo) env₀ events =
      (framesPerUpdate hash' (.window .baroCpt) env₀' events').map
        (List.map Effect.renamed) := by
  have hfo := framesPerUpdate_eq .fo hash env₀ events
  have hcpt := framesPerUpdate_eq .cpt hash' env₀' events'
  have hstart' : Side.fo.datarefs env₀ = Side.cpt.datarefs env₀' := hstart
  -- both are the outputs of the same pipeline on the same readings
  rw [hreadings, hstart'] at hfo
  refine hfo.trans (.trans ?_ (congrArg (List.map (List.map Effect.renamed)) hcpt).symm)
  rw [List.map_map]
  apply List.map_congr_left
  intro texts htexts
  rw [Function.comp_apply, List.map_map]
  apply List.map_congr_left
  intro text htext
  exact (renamed_push_frame (forall_mem_outputs length_baroPipeline texts htexts text htext)).symm

/-- The unit knob of the first officer in one run, and that of the captain in another, with a
packet in between. -/
theorem framesPerUpdate_fo_turned :
    framesPerUpdate fnv1a (.window .baroFo) .zero
        [.update { Datarefs.zero with baroFo := ⟨0, 29.92, 0⟩ },
          .update { Datarefs.zero with baroFo := ⟨1, 29.92, 0⟩ }] =
      (framesPerUpdate fnv1a (.window .baroCpt) .zero
        [.update { Datarefs.zero with baroCpt := ⟨0, 29.92, 0⟩ }, .packet .zero [],
          .update { Datarefs.zero with baroCpt := ⟨1, 29.92, 0⟩ }]).map
        (List.map Effect.renamed) :=
  framesPerUpdate_fo rfl rfl

end SkalarkiFcu
