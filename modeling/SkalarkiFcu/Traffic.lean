import SkalarkiFcu.BaroSides

/-!
# How many frames an update pushes

Each part of `Update` pushes one frame for a change of its value, and one or two for a change of
its mode. All together this bounds the frames of an update, whatever the simulator does in
between two updates.
-/

namespace SkalarkiFcu

open Reactive Truncation

namespace Update

variable (env : Datarefs)

theorem length_pushes_vsValue (w : VsWindow) : (pushes (vsValue env w).2).length ≤ 1 := by
  simp only [vsValue, updateVs_eq]
  split_ifs <;> simp [pushes, Effect.frame?]

theorem length_pushes_vsMode (w : VsWindow) : (pushes (vsMode env w).2).length ≤ 1 := by
  simp only [vsMode, updateVs_eq]
  split_ifs <;> simp [pushes, Effect.frame?]

theorem length_pushes_altMode (w : AltWindow) : (pushes (altMode env w).2).length ≤ 1 := by
  simp only [altMode, pushMessage_dot_on, pushMessage_dot_off]
  split_ifs <;> simp [pushes, Effect.frame?]

theorem length_pushes_annunciator (k : Annunciator) (n : ℤ) :
    (pushes (annunciator k env n).2).length ≤ 1 := by
  simp only [annunciator, pushMessage_annunciator_on, pushMessage_annunciator_off]
  split_ifs <;> simp [pushes, Effect.frame?]

theorem length_pushes_hdgMode (w : HdgWindow) : (pushes (hdgMode env w).2).length ≤ 2 := by
  simp only [hdgMode, updateHdg_eq, pushMessage_dot_on, pushMessage_dot_off]
  split_ifs <;> simp [pushes, Effect.frame?]

theorem length_pushes_spdMode (w : SpdWindow) : (pushes (spdMode env w).2).length ≤ 2 := by
  simp only [spdMode, updateSpd_eq, pushMessage_dot_on, pushMessage_dot_off]
  split_ifs <;> simp [pushes, Effect.frame?]

theorem length_pushes_hdgValue (w : HdgWindow) : (pushes (hdgValue w).2).length ≤ 1 := by
  simp only [hdgValue, updateHdg_eq]
  split_ifs <;> simp [pushes, Effect.frame?]

theorem length_pushes_spdValue (w : SpdWindow) : (pushes (spdValue w).2).length ≤ 1 := by
  simp only [spdValue, updateSpd_eq]
  split_ifs <;> simp [pushes, Effect.frame?]

theorem length_pushes_altValue (w : AltWindow) : (pushes (altValue w).2).length ≤ 1 := by
  simp only [altValue, updateAlt_eq]
  split_ifs <;> simp [pushes, Effect.frame?]

/-- The STD knob and the setting never both show something: STD hides the setting. -/
theorem length_baroPipeline_le (d : BaroDatarefs) (b : Baro) :
    (baroPipeline d b).2.length ≤ 1 := by
  simp only [baroPipeline, Action.block_cons, Action.block_nil, Action.seq_snd, Action.skip_apply,
    List.nil_append, List.append_nil, List.length_append, stdTexts, settingTexts]
  split_ifs <;> simp_all

theorem length_pushes_baro {bufs : BaroBuffers} {w : Window} (hbufs : bufs.For w)
    (d : BaroDatarefs) (b : Baro) : (pushes (baro bufs d b).2).length ≤ 1 := by
  rw [baro_eq_mapEffects hbufs, Action.mapEffects, pushes]
  exact (List.length_filterMap_le _ _).trans (by
    rw [List.length_map]
    exact length_baroPipeline_le d b)

end Update

/-- **An update pushes at most 23 frames**: one for each annunciator, barometer and the altitude
dot, three for each of speed and heading, two for the vertical speed and one for the altitude. -/
theorem length_pushes_update (env : Datarefs) (s : Globals) :
    (pushes (update env s).2).length ≤ 23 := by
  have hlamp := fun k => Update.length_pushes_annunciator env k (s.state k)
  have hnd : ∀ left right sel, (pushes (Update.ndMode left right sel).2).length ≤ 0 :=
    fun left right sel => (congrArg List.length (Update.pushes_ndLoop left right _ sel)).le
  rw [update_snd]
  simp only [pushes_append, List.length_append]
  -- the parts in the order of the source
  refine (Nat.add_le_add (Update.length_pushes_vsValue env _) <|
    Nat.add_le_add (Update.length_pushes_vsMode env _) <|
    Nat.add_le_add (Update.length_pushes_altMode env _) <|
    Nat.add_le_add (hlamp .athr) <| Nat.add_le_add (hlamp .appr) <|
    Nat.add_le_add (hlamp .ap1) <| Nat.add_le_add (hlamp .ap2) <|
    Nat.add_le_add (hlamp .masterCaution) <| Nat.add_le_add (hlamp .masterWarning) <|
    Nat.add_le_add (Update.length_pushes_hdgMode env _) <|
    Nat.add_le_add (Update.length_pushes_spdMode env _) <|
    Nat.add_le_add (hlamp .lsCpt) <| Nat.add_le_add (hlamp .fdCpt) <|
    Nat.add_le_add (hlamp .lsFo) <| Nat.add_le_add (hlamp .fdFo) <|
    Nat.add_le_add (hlamp .loc) <| Nat.add_le_add (hnd _ _ _) <| Nat.add_le_add (hnd _ _ _) <|
    Nat.add_le_add (Update.length_pushes_hdgValue _) <|
    Nat.add_le_add (Update.length_pushes_spdValue _) <|
    Nat.add_le_add (Update.length_pushes_altValue _) <|
    Nat.add_le_add (Update.length_pushes_baro sendbufBaroLeft_for _ _)
      (Update.length_pushes_baro sendBufBaroRight_for _ _)).trans ?_
  decide

end SkalarkiFcu
