import Mathlib.Data.List.Basic
import Mathlib.Data.List.Infix

/-!
# Tables in which the first entry of a key wins

An associative table that is filled by insertions and in which an insertion under a key that
is already present is dropped. `lookup_ofList` reads such a table back from the list of its
insertions. The second part is about tables keyed by a hash of the entry's content, without
any assumption on the hash: `find_hash_eq_iff` says exactly when a lookup by the hash of a
content finds what a lookup by the content itself would find.
-/

namespace FirstWins

variable {κ β γ : Type*} [DecidableEq κ]

/-- Insert, unless the key is already there. -/
def emplace (t : List (κ × β)) (k : κ) (b : β) : List (κ × β) :=
  if t.any (fun e => e.1 == k) then t else t ++ [(k, b)]

/-- The value stored under a key. -/
def lookup (t : List (κ × β)) (k : κ) : Option β :=
  (t.find? fun e => e.1 == k).map Prod.snd

/-- The table filled from a list of entries, each under its own key. -/
def ofList (key : β → κ) (bs : List β) : List (κ × β) :=
  bs.foldl (fun t b => emplace t (key b) b) []

theorem lookup_emplace (t : List (κ × β)) (k k' : κ) (b : β) :
    lookup (emplace t k b) k' = (lookup t k').or (if k = k' then some b else none) := by
  unfold emplace lookup
  -- a key that is present keeps its entry; otherwise the new entry is the last of the table
  by_cases hany : t.any (fun e => e.1 == k) = true
  · rw [if_pos hany]
    by_cases hk : k = k'
    · subst hk
      obtain ⟨e, he, hek⟩ := List.any_eq_true.mp hany
      have hsome : (t.find? fun e => e.1 == k).isSome = true :=
        List.find?_isSome.mpr ⟨e, he, hek⟩
      obtain ⟨e', he'⟩ := Option.isSome_iff_exists.mp hsome
      simp [he']
    · simp [hk]
  · rw [if_neg hany, List.find?_append]
    cases hfind : t.find? (fun e => e.1 == k') with
    | some e => simp
    | none => by_cases hk : k = k' <;> simp [hk]

theorem lookup_foldl_emplace (key : β → κ) (bs : List β) (t : List (κ × β)) (k : κ) :
    lookup (bs.foldl (fun t b => emplace t (key b) b) t) k =
      (lookup t k).or (bs.find? fun b => key b == k) := by
  induction bs generalizing t with
  | nil => simp
  | cons b bs ih =>
    rw [List.foldl_cons, ih, lookup_emplace, List.find?_cons, Option.or_assoc]
    by_cases hk : key b = k
    · simp [hk]
    · simp [hk, beq_false_of_ne hk]

/-- **Reading back**: a key holds the first entry that was inserted under it. -/
theorem lookup_ofList (key : β → κ) (bs : List β) (k : κ) :
    lookup (ofList key bs) k = bs.find? fun b => key b == k := by
  rw [ofList, lookup_foldl_emplace]
  rfl

/-! ## Tables keyed by a hash -/

section Hashed

variable [DecidableEq γ] (content : β → γ) (hash : γ → κ)

/-- The entries that stand before the first one with content `p`: all of them if there is no
such entry. -/
def before (bs : List β) (p : γ) : List β := bs.takeWhile fun b => content b ≠ p

/-- **Collisions**: a lookup by hash finds the entry with content `p`, or nothing if there is
none, if and only if no entry before it has its hash. -/
theorem find_hash_eq_iff (bs : List β) (p : γ) :
    (bs.find? fun b => hash (content b) == hash p) = (bs.find? fun b => decide (content b = p)) ↔
      ∀ b ∈ before content bs p, hash (content b) ≠ hash p := by
  unfold before
  induction bs with
  | nil => simp
  | cons b bs ih =>
    by_cases hb : content b = p
    · simp [hb]
    · have htake : (b :: bs).takeWhile (fun b => content b ≠ p) =
          b :: bs.takeWhile fun b => content b ≠ p := by
        simp [hb]
      rw [htake, List.forall_mem_cons, ← ih]
      by_cases hh : hash (content b) = hash p
      · -- the colliding entry is found, but its content is not `p`
        have hfound : (b :: bs).find? (fun b => hash (content b) == hash p) = some b := by
          simp [hh]
        rw [hfound]
        constructor
        · intro heq
          have := List.find?_some heq.symm
          exact absurd (by simpa using this) hb
        · intro h
          exact absurd hh h.1
      · simp [hb, hh]

end Hashed

end FirstWins
