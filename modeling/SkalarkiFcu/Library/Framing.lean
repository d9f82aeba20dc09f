import Mathlib.Data.List.Flatten
import Mathlib.Tactic.Common

/-!
# Self-delimiting frames

A byte stream carries a sequence of frames without separators; each frame declares its own
length in its head. `split` cuts a stream by these declarations. The main result,
`split_flatten_iff`, says when cutting the concatenation of some messages gives the messages
back: exactly when each of them has the length that it declares.
-/

namespace Framing

variable {α : Type*}

/-- Cut a stream at the lengths that its frames declare, with `n` frames at most. -/
def splitAux (declared : List α → Option ℕ) : ℕ → List α → Option (List (List α))
  | _, [] => some []
  | 0, _ :: _ => none
  | n + 1, a :: s =>
    match declared (a :: s) with
    | none => none
    | some k =>
      if 0 < k ∧ k ≤ (a :: s).length then
        (splitAux declared n ((a :: s).drop k)).map ((a :: s).take k :: ·)
      else none

/-- Cut a stream at the lengths that its frames declare; `none` if the last frame is not
complete or a head cannot be read. -/
def split (declared : List α → Option ℕ) (s : List α) : Option (List (List α)) :=
  splitAux declared s.length s

section Splitting

variable {declared : List α → Option ℕ}

/-- The first cut of a nonempty stream. -/
theorem splitAux_succ {n k : ℕ} {s : List α} (hs : s ≠ []) (hd : declared s = some k)
    (hk : 0 < k) (hks : k ≤ s.length) :
    splitAux declared (n + 1) s = (splitAux declared n (s.drop k)).map (s.take k :: ·) := by
  cases s with
  | nil => exact absurd rfl hs
  | cons a s => simp only [splitAux, hd, hk, hks, and_self, if_true]

/-- Where a cut succeeds, the head of the stream declares the length of its first piece. -/
theorem declared_of_splitAux {n : ℕ} {s m : List α} {ms : List (List α)}
    (h : splitAux declared n s = some (m :: ms)) :
    declared s = some m.length ∧ m = s.take m.length ∧
      ∃ n', splitAux declared n' (s.drop m.length) = some ms := by
  -- a cut that succeeds has fuel left and a stream to cut
  cases n with
  | zero => cases s <;> simp [splitAux] at h
  | succ n =>
    cases s with
    | nil => simp [splitAux] at h
    | cons a s =>
      simp only [splitAux] at h
      cases hd : declared (a :: s) with
      | none => simp [hd] at h
      | some k =>
        simp only [hd] at h
        split at h
        case isFalse => simp at h
        case isTrue hk =>
          simp only [Option.map_eq_some_iff, List.cons.injEq] at h
          obtain ⟨ms', hms, rfl, rfl⟩ := h
          have hlen : ((a :: s).take k).length = k := List.length_take_of_le hk.2
          rw [hlen]
          exact ⟨rfl, rfl, n, hms⟩

/-- The head is the part of a frame that declares its length: what follows the first `h`
elements has no say. -/
def HeadDeclares (declared : List α → Option ℕ) (h : ℕ) : Prop :=
  ∀ s t : List α, h ≤ s.length → declared (s ++ t) = declared s

variable {h : ℕ}

/-- There are at most as many nonempty messages as elements. -/
theorem length_le_length_flatten {ms : List (List α)} (hpos : ∀ m ∈ ms, 0 < m.length) :
    ms.length ≤ ms.flatten.length := by
  induction ms with
  | nil => simp
  | cons m ms ih =>
    have hm := hpos m (List.mem_cons_self ..)
    have hrest := ih fun m' hm' => hpos m' (List.mem_cons_of_mem m hm')
    simp only [List.length_cons, List.flatten_cons, List.length_append]
    omega

/-- Messages that are left out take their elements with them. -/
theorem filter_eq_self_of_flatten_eq {p : List α → Bool} {ms : List (List α)}
    (hpos : ∀ m ∈ ms, 0 < m.length) (h : (ms.filter p).flatten = ms.flatten) :
    ms.filter p = ms := by
  induction ms with
  | nil => rfl
  | cons m ms ih =>
    have hm := hpos m (List.mem_cons_self ..)
    have hle := (List.filter_sublist (p := p) (l := ms)).flatten.length_le
    by_cases hp : p m = true
    · rw [List.filter_cons_of_pos hp] at h ⊢
      rw [ih (fun m' hm' => hpos m' (List.mem_cons_of_mem m hm'))
        (List.append_cancel_left h)]
    · rw [List.filter_cons_of_neg hp] at h
      have hlen := congrArg List.length h
      rw [List.flatten_cons, List.length_append] at hlen
      omega

theorem splitAux_flatten (hh : HeadDeclares declared h) (hpos : 0 < h) {ms : List (List α)}
    (hlen : ∀ m ∈ ms, h ≤ m.length) (hd : ∀ m ∈ ms, declared m = some m.length) {n : ℕ}
    (hn : ms.length ≤ n) : splitAux declared n ms.flatten = some ms := by
  induction ms generalizing n with
  | nil => cases n <;> rfl
  | cons m ms ih =>
    obtain ⟨n, rfl⟩ : ∃ n', n = n' + 1 := ⟨n - 1, by simp at hn; omega⟩
    have hm : h ≤ m.length := hlen m (List.mem_cons_self ..)
    have hne : m ++ ms.flatten ≠ [] := by
      intro hnil
      have : m.length = 0 := by simp [(List.append_eq_nil_iff.mp hnil).1]
      omega
    -- the declaration reads the head of the first message and nothing behind it
    have hdecl : declared (m ++ ms.flatten) = some m.length := by
      rw [hh m _ hm, hd m (List.mem_cons_self ..)]
    have hrest : splitAux declared n ms.flatten = some ms := by
      apply ih (fun m' hm' => hlen m' (List.mem_cons_of_mem m hm'))
        (fun m' hm' => hd m' (List.mem_cons_of_mem m hm'))
      simpa using hn
    rw [List.flatten_cons, splitAux_succ hne hdecl (by omega) (by simp)]
    simp [hrest]

theorem declared_of_splitAux_flatten (hh : HeadDeclares declared h) {ms : List (List α)}
    (hlen : ∀ m ∈ ms, h ≤ m.length) {n : ℕ} (hs : splitAux declared n ms.flatten = some ms) :
    ∀ m ∈ ms, declared m = some m.length := by
  induction ms generalizing n with
  | nil => simp
  | cons m ms ih =>
    obtain ⟨hdecl, -, n', hrest⟩ := declared_of_splitAux hs
    rw [List.flatten_cons, hh m _ (hlen m (List.mem_cons_self ..))] at hdecl
    rw [List.flatten_cons, List.drop_left] at hrest
    intro m' hm'
    rcases List.mem_cons.mp hm' with rfl | hm'
    · exact hdecl
    · exact ih (fun m'' hm'' => hlen m'' (List.mem_cons_of_mem m hm'')) hrest m' hm'

/-- **Framing**: messages with complete heads are cut back out of their concatenation if and
only if each of them has the length that it declares. -/
theorem split_flatten_iff (hh : HeadDeclares declared h) (hpos : 0 < h) {ms : List (List α)}
    (hlen : ∀ m ∈ ms, h ≤ m.length) :
    split declared ms.flatten = some ms ↔ ∀ m ∈ ms, declared m = some m.length := by
  constructor
  · exact declared_of_splitAux_flatten hh hlen
  · intro hd
    exact splitAux_flatten hh hpos hlen hd
      (length_le_length_flatten fun m hm => Nat.lt_of_lt_of_le hpos (hlen m hm))

end Splitting

end Framing
