import SkalarkiFcu.Plugin

/-!
# Exact dispatch

`ProcessPacket` compares hashes, never bytes. `DispatchExact` says what its two branches are
for: a registered packet runs its own handler, and any other packet is reported as unknown.
Without any assumption on the hash, this is settled by the entries that were registered before
the packet's own one.
-/

namespace SkalarkiFcu

open LittleEndian Reactive

/-! ## The handlers that run -/

/-- The handler that an effect records. -/
def Effect.command? : Effect → Option Command
  | .invoke c => some c
  | _ => none

/-- The handlers that ran, in order. -/
def invoked (es : List Effect) : List Command := es.filterMap Effect.command?

@[simp] theorem invoked_append (es fs : List Effect) :
    invoked (es ++ fs) = invoked es ++ invoked fs := List.filterMap_append

theorem Command.invoked_handler (env : Datarefs) (c : Command) (s : Globals) :
    invoked (c.handler env s).2 = [] := by
  rw [invoked, List.filterMap_eq_nil_iff]
  intro e he
  rcases c.handler_effects env s e he with ⟨r, rfl⟩ | ⟨d, v, rfl⟩
  · rfl
  · rfl

theorem invoked_init : invoked (init Globals.initial).2 = [] := by
  rw [init_snd, invoked, List.filterMap_map]
  exact List.filterMap_eq_nil_iff.mpr fun _ _ => rfl

theorem invoked_initDatarefs (env : Datarefs) (s : Globals) :
    invoked (initDatarefs env s).2 = [] := by
  rw [initDatarefs_snd]
  simp only [InitDatarefs.spd, pushMessage_dot_on, pushMessage_dot_off]
  split_ifs <;> rfl

theorem invoked_update (env : Datarefs) (s : Globals) : invoked (update env s).2 = [] :=
  observed_update_eq_nil (fun _ _ => rfl) (fun _ => rfl) (fun _ _ => rfl) env s

/-- One packet runs the handler that the lookup finds, once, or none. -/
theorem invoked_processPacket (hash : Bytes → UInt64) (env : Datarefs) (recvbuf : Bytes)
    (s : Globals) :
    invoked (processPacket hash env recvbuf s).2 = (dispatch hash recvbuf).toList := by
  cases h : dispatch hash recvbuf with
  | none =>
    rw [processPacket_of_none h]
    rfl
  | some c =>
    rw [processPacket_of_some h]
    show c :: invoked (c.handler env _).2 = [c]
    rw [c.invoked_handler]

/-! ## Exactness -/

/-- A packet that equals a registered literal runs the handler of that literal, once; a packet
that equals none runs no handler, and only the packet counter moves. -/
def DispatchExact (hash : Bytes → UInt64) (env : Datarefs) (recvbuf : Bytes) (s : Globals) :
    Prop :=
  let counted := { s with packetCounter := s.packetCounter + 1 }
  let r := processPacket hash env recvbuf s
  (∀ c : Command, recvbuf = c.literal →
    invoked r.2 = [c] ∧ r = ((c.handler env counted).1, .invoke c :: (c.handler env counted).2)) ∧
  ((∀ c : Command, recvbuf ≠ c.literal) →
    invoked r.2 = [] ∧
      r = (counted, [.debugString "A330_Skalarki: Error, unknown command.\n"]))

/-- What a lookup by content finds. -/
theorem find_literal_eq_some_iff (recvbuf : Bytes) (c : Command) :
    (registered.find? fun c => decide (c.literal = recvbuf)) = some c ↔ recvbuf = c.literal := by
  constructor
  · intro h
    have := List.find?_some h
    exact (of_decide_eq_true this).symm
  · rintro rfl
    -- some entry has these bytes, and no two entries share a literal
    have hsome : (registered.find? fun c' => decide (c'.literal = c.literal)).isSome = true :=
      List.find?_isSome.mpr ⟨c, mem_registered c, decide_eq_true rfl⟩
    obtain ⟨c', hc'⟩ := Option.isSome_iff_exists.mp hsome
    have hlit := List.find?_some hc'
    rw [hc', Command.literal_injective (of_decide_eq_true hlit)]

theorem find_literal_eq_none_iff (recvbuf : Bytes) :
    (registered.find? fun c => decide (c.literal = recvbuf)) = none ↔
      ∀ c : Command, recvbuf ≠ c.literal := by
  simp only [List.find?_eq_none, decide_eq_true_eq]
  constructor
  · intro h c hc
    exact h c (mem_registered c) hc.symm
  · intro h c _ hc
    exact h c hc.symm

/-- Exactness is agreement with a lookup by content. -/
theorem dispatchExact_iff_find (hash : Bytes → UInt64) (env : Datarefs) (recvbuf : Bytes)
    (s : Globals) : DispatchExact hash env recvbuf s ↔
      dispatch hash recvbuf = registered.find? fun c => decide (c.literal = recvbuf) := by
  constructor
  -- what ran tells what was found, in the registered case and in the other
  · rintro ⟨hreg, hunreg⟩
    rw [invoked_processPacket] at hreg hunreg
    cases hfind : registered.find? fun c => decide (c.literal = recvbuf) with
    | some c =>
      have h := (hreg c ((find_literal_eq_some_iff recvbuf c).mp hfind)).1
      cases hd : dispatch hash recvbuf with
      | none => simp [hd] at h
      | some c' => simpa [hd] using h
    | none =>
      have h := (hunreg ((find_literal_eq_none_iff recvbuf).mp hfind)).1
      cases hd : dispatch hash recvbuf with
      | none => rfl
      | some c' => simp [hd] at h
  · intro hd
    refine ⟨fun c hc => ?_, fun hc => ?_⟩
    · rw [(find_literal_eq_some_iff recvbuf c).mpr hc] at hd
      rw [invoked_processPacket, hd]
      exact ⟨rfl, processPacket_of_some hd env s⟩
    · rw [(find_literal_eq_none_iff recvbuf).mpr hc] at hd
      rw [invoked_processPacket, hd]
      exact ⟨rfl, processPacket_of_none hd env s⟩

/-- **Exactness of the dispatch**: a packet is dispatched exactly if and only if no entry that
was registered before its own literal (any entry at all, for an unregistered packet) has its
hash. -/
theorem dispatchExact_iff (hash : Bytes → UInt64) (env : Datarefs) (recvbuf : Bytes)
    (s : Globals) : DispatchExact hash env recvbuf s ↔
      ∀ c ∈ FirstWins.before Command.literal registered recvbuf,
        hash c.literal ≠ hash recvbuf := by
  rw [dispatchExact_iff_find, dispatch_eq]
  exact FirstWins.find_hash_eq_iff Command.literal hash registered recvbuf

/-! ## Hashes that separate the literals -/

/-- The hash has no collision among the registered literals, so that `emplace` drops none. -/
def SeparatesLiterals (hash : Bytes → UInt64) : Prop :=
  Function.Injective fun c : Command => hash c.literal

/-- A registered packet then runs its own handler. -/
theorem SeparatesLiterals.dispatch_literal {hash : Bytes → UInt64} (h : SeparatesLiterals hash)
    (c : Command) : dispatch hash c.literal = some c := by
  have hsome : (registered.find? fun c' => hash c'.literal == hash c.literal).isSome = true :=
    List.find?_isSome.mpr ⟨c, mem_registered c, beq_self_eq_true _⟩
  obtain ⟨c', hc'⟩ := Option.isSome_iff_exists.mp hsome
  have hhash := List.find?_some hc'
  rw [dispatch_eq, hc', h (beq_iff_eq.mp hhash)]

theorem separatesLiterals_fnv1a : SeparatesLiterals fnv1a := by
  have hnodup : (registered.map fun c => fnv1a c.literal).Nodup := by decide +kernel
  intro c c' h
  exact List.inj_on_of_nodup_map hnodup (mem_registered c) (mem_registered c') h

/-! ## A collision -/

/-- A packet that is not registered and has the hash of `AltRight`. -/
def strayPacket : Bytes :=
  [0x21, 0x00, 0x00, 0x00, 0x00, 0x00, 0x00, 0x00, 0x46, 0x01, 0x01, 0x03, 0x07, 0x05, 0x1e, 0x00,
   0x25, 0x04, 0x0e, 0x02, 0x00, 0x01, 0x1f, 0x02, 0xa2, 0x03, 0x00, 0x0d, 0x1b, 0x02, 0x1e, 0x01,
   0x00, 0x00, 0x00, 0x07, 0x01]

/-- The stray packet is not registered, and turns the altitude knob. -/
theorem dispatchExact_strayPacket :
    ¬ ∀ (hash : Bytes → UInt64) (env : Datarefs) (recvbuf : Bytes) (s : Globals),
      1 ≤ recvbuf.length → recvbuf.length ≤ 256 → DispatchExact hash env recvbuf s := by
  intro h
  have hexact := h fnv1a .zero strayPacket .initial (by decide) (by decide)
  rw [dispatchExact_iff_find] at hexact
  -- nothing has these bytes, but the lookup by hash finds an entry
  have hunreg : (registered.find? fun c => decide (c.literal = strayPacket)) = none := by
    decide +kernel
  have hfound : dispatch fnv1a strayPacket = some .altRight := by
    decide +kernel
  rw [hunreg, hfound] at hexact
  cases hexact

end SkalarkiFcu
