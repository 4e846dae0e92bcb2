/-!
# Milliseconds

Points in time and lengths of time, counted in milliseconds from the start of a conversation. The
count has a last value, and every operation that would pass it stops there: the sum of two times is
the exact sum or the last value, whichever is less.
-/

namespace Inquest

@[ext] structure Millis where
  val : Nat
  val_le : val ≤ 18446744073709551615
  deriving DecidableEq, Repr

namespace Millis

def maxVal : Nat := 18446744073709551615

/-- The nearest count to `n`: itself, or the last one. -/
def ofNat (n : Nat) : Millis := ⟨min maxVal n, Nat.min_le_left _ _⟩

def last : Millis := ⟨maxVal, Nat.le_refl _⟩

instance (n : Nat) : OfNat Millis n := ⟨ofNat n⟩
instance : Inhabited Millis := ⟨0⟩
instance : Add Millis := ⟨fun a b => ofNat (a.val + b.val)⟩
instance : Sub Millis := ⟨fun a b => ofNat (a.val - b.val)⟩
instance : LE Millis := ⟨fun a b => a.val ≤ b.val⟩
instance : LT Millis := ⟨fun a b => a.val < b.val⟩
instance (a b : Millis) : Decidable (a ≤ b) := inferInstanceAs (Decidable (a.val ≤ b.val))
instance (a b : Millis) : Decidable (a < b) := inferInstanceAs (Decidable (a.val < b.val))
instance : Max Millis := ⟨fun a b => if a ≤ b then b else a⟩
instance : Min Millis := ⟨fun a b => if a ≤ b then a else b⟩
instance : ToString Millis := ⟨fun a => Nat.repr a.val⟩

/-- `n` times `a`, stopping at the last count. -/
def times (n : Nat) (a : Millis) : Millis := ofNat (n * a.val)

theorem le_def {a b : Millis} : a ≤ b ↔ a.val ≤ b.val := Iff.rfl
theorem lt_def {a b : Millis} : a < b ↔ a.val < b.val := Iff.rfl

theorem val_le_maxVal (a : Millis) : a.val ≤ maxVal := a.val_le

@[simp] theorem val_ofNat (n : Nat) : (ofNat n).val = min maxVal n := rfl
@[simp] theorem val_last : last.val = maxVal := rfl
@[simp] theorem val_add (a b : Millis) : (a + b).val = min maxVal (a.val + b.val) := rfl
@[simp] theorem val_times (n : Nat) (a : Millis) : (times n a).val = min maxVal (n * a.val) := rfl
@[simp] theorem val_zero : (0 : Millis).val = 0 := rfl

@[simp] theorem val_sub (a b : Millis) : (a - b).val = a.val - b.val :=
  Nat.min_eq_right (Nat.le_trans (Nat.sub_le _ _) a.val_le)

@[simp] theorem val_max (a b : Millis) : (max a b).val = max a.val b.val := by
  show (if a.val ≤ b.val then b else a).val = _
  split <;> omega

@[simp] theorem val_min (a b : Millis) : (min a b).val = min a.val b.val := by
  show (if a.val ≤ b.val then a else b).val = _
  split <;> omega

theorem le_last (a : Millis) : a ≤ last := a.val_le

theorem le_refl (a : Millis) : a ≤ a := Nat.le_refl _
theorem le_trans {a b c : Millis} (h : a ≤ b) (k : b ≤ c) : a ≤ c := Nat.le_trans h k
theorem le_total (a b : Millis) : a ≤ b ∨ b ≤ a := Nat.le_total _ _
theorem le_of_lt {a b : Millis} (h : a < b) : a ≤ b := Nat.le_of_lt h
theorem not_le {a b : Millis} : ¬a ≤ b ↔ b < a := Nat.not_le

theorem max_eq_right {a b : Millis} (h : a ≤ b) : max a b = b := by
  rw [le_def] at h
  ext
  rw [val_max]
  omega

theorem max_eq_left {a b : Millis} (h : b ≤ a) : max a b = a := by
  rw [le_def] at h
  ext
  rw [val_max]
  omega

theorem le_max_left (a b : Millis) : a ≤ max a b := by
  rw [le_def, val_max]
  omega

theorem le_max_right (a b : Millis) : b ≤ max a b := by
  rw [le_def, val_max]
  omega

@[simp] theorem ofNat_val (a : Millis) : ofNat a.val = a := by
  ext
  exact Nat.min_eq_right a.val_le_maxVal

/-- A wait that begins at the nearest time to a count ends at the nearest time to the whole count. -/
theorem ofNat_add (n : Nat) (a : Millis) : ofNat n + a = ofNat (n + a.val) := by
  ext
  simp only [val_add, val_ofNat]
  omega

theorem ofNat_le_ofNat {m n : Nat} (h : m ≤ n) : ofNat m ≤ ofNat n := by
  rw [le_def, val_ofNat, val_ofNat]
  omega

/-- No sum is earlier than its first part. -/
theorem le_add (a b : Millis) : a ≤ a + b := by
  have := a.val_le_maxVal
  rw [le_def, val_add]
  omega

/-- Before the last count, any wait leads to a later time. -/
theorem lt_add {a b : Millis} (h : a < last) (hb : 0 < b) : a < a + b := by
  rw [lt_def, val_last] at h
  rw [lt_def, val_zero] at hb
  rw [lt_def, val_add]
  omega

end Millis

end Inquest
