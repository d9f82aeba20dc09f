import Mathlib.Algebra.Group.Nat.Defs
import Mathlib.Data.List.Basic
import Mathlib.Tactic.Common

/-!
# Little-endian words and readers

Bytes, 32-bit little-endian words, and readers that consume a prefix of a byte string. Each
reader comes with the lemma that it reads back what was written.
-/

namespace LittleEndian

/-- A byte string. -/
abbrev Bytes := List UInt8

/-! ## Writing -/

/-- The four bytes of a 32-bit word, least significant first. -/
def le32 (n : ℕ) : Bytes :=
  [UInt8.ofNat n, UInt8.ofNat (n / 256), UInt8.ofNat (n / 65536), UInt8.ofNat (n / 16777216)]

@[simp] theorem length_le32 (n : ℕ) : (le32 n).length = 4 := rfl

/-! ## Reading -/

/-- Read a 32-bit word. -/
def readWord : Bytes → Option (ℕ × Bytes)
  | b₀ :: b₁ :: b₂ :: b₃ :: r =>
    some (b₀.toNat + 256 * b₁.toNat + 65536 * b₂.toNat + 16777216 * b₃.toNat, r)
  | _ => none

/-- Read one byte. -/
def readByte : Bytes → Option (UInt8 × Bytes)
  | b :: r => some (b, r)
  | [] => none

/-- Read `n` bytes. -/
def readBytes (n : ℕ) (bs : Bytes) : Option (Bytes × Bytes) :=
  if n ≤ bs.length then some (bs.take n, bs.drop n) else none

/-- Read a byte string that is preceded by its length in one byte. -/
def readPrefixed (bs : Bytes) : Option (Bytes × Bytes) :=
  (readByte bs).bind fun r => readBytes r.1.toNat r.2

/-- Read `n` words. -/
def readWords : ℕ → Bytes → Option (List ℕ × Bytes)
  | 0, bs => some ([], bs)
  | n + 1, bs =>
    (readWord bs).bind fun r => (readWords n r.2).map fun r' => (r.1 :: r'.1, r'.2)

theorem readWord_le32 {n : ℕ} (hn : n < 2 ^ 32) (r : Bytes) :
    readWord (le32 n ++ r) = some (n, r) := by
  simp only [le32, readWord, List.cons_append, List.nil_append, UInt8.toNat_ofNat',
    Option.some.injEq, Prod.mk.injEq, and_true]
  omega

theorem readWord_append {bs : Bytes} (h : 4 ≤ bs.length) (r : Bytes) :
    (readWord (bs ++ r)).map Prod.fst = (readWord bs).map Prod.fst := by
  match bs, h with
  | _ :: _ :: _ :: _ :: _, _ => rfl

@[simp] theorem readByte_cons (b : UInt8) (r : Bytes) : readByte (b :: r) = some (b, r) := rfl

theorem readBytes_append (bs r : Bytes) : readBytes bs.length (bs ++ r) = some (bs, r) := by
  simp [readBytes]

theorem readPrefixed_cons {bs : Bytes} (h : bs.length < 256) (r : Bytes) :
    readPrefixed (UInt8.ofNat bs.length :: (bs ++ r)) = some (bs, r) := by
  -- the length fits into its byte
  have hlen : (UInt8.ofNat bs.length).toNat = bs.length := by
    simpa using h
  rw [readPrefixed, readByte_cons, Option.bind_some, hlen, readBytes_append]

theorem readWords_flatMap {ws : List ℕ} (h : ∀ w ∈ ws, w < 2 ^ 32) (r : Bytes) :
    readWords ws.length (ws.flatMap le32 ++ r) = some (ws, r) := by
  induction ws with
  | nil => rfl
  | cons w ws ih =>
    have hw : w < 2 ^ 32 := h w (List.mem_cons_self ..)
    have hws := ih fun w' hw' => h w' (List.mem_cons_of_mem w hw')
    rw [List.flatMap_cons, List.append_assoc, List.length_cons, readWords, readWord_le32 hw,
      Option.bind_some, hws]
    rfl

end LittleEndian
