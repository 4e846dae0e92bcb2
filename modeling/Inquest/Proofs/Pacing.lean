import Inquest.Pacing
/-!
# Typing times

The typing time of a line is the product of its number of characters and the time for one, raised to
the shortest typing time and then cut down to the longest. The product stops at the last count of
milliseconds. That never shows, as the longest typing time is a count itself.
-/

namespace Inquest

/-- Under a bound that is a count, it makes no difference that counts stop at the last one. -/
theorem Millis.min_val_ofNat (n : Nat) (a : Millis) : min (ofNat n).val a.val = min n a.val := by
  rw [val_ofNat, Nat.min_comm maxVal n, Nat.min_assoc, Nat.min_eq_right a.val_le_maxVal]

namespace Pacing

variable {p : Pacing} {text longer : String}

/-- The typing time is the one that a count without an end would give. -/
theorem val_typingDelay (p : Pacing) (text : String) : (p.typingDelay text).val =
    min p.maxTyping.val (max p.minTyping.val (text.length * p.perChar.val)) := by
  -- The upper bound goes through the lower one to the product, hides the last count there, and returns.
  calc (p.typingDelay text).val
      = min (max (Millis.ofNat (text.length * p.perChar.val)).val p.minTyping.val)
          p.maxTyping.val := by
        rw [typingDelay, Millis.val_min, Millis.val_max, Millis.times]
    _ = max (min (text.length * p.perChar.val) p.maxTyping.val)
          (min p.minTyping.val p.maxTyping.val) := by
        rw [Nat.min_max_distrib_right, Millis.min_val_ofNat]
    _ = min (max (text.length * p.perChar.val) p.minTyping.val) p.maxTyping.val := by
        rw [Nat.min_max_distrib_right]
    _ = min p.maxTyping.val (max p.minTyping.val (text.length * p.perChar.val)) := by
        rw [Nat.min_comm, Nat.max_comm]

theorem typingDelay_le_maxTyping (p : Pacing) (text : String) :
    p.typingDelay text ≤ p.maxTyping := by
  rw [Millis.le_def, val_typingDelay]
  exact Nat.min_le_left _ _

theorem minTyping_le_typingDelay (room : p.minTyping ≤ p.maxTyping) :
    p.minTyping ≤ p.typingDelay text := by
  rw [Millis.le_def, val_typingDelay]
  exact Nat.le_min.2 ⟨room, Nat.le_max_left _ _⟩

/-- Where the bounds leave no room, the longest typing time wins. -/
theorem typingDelay_eq_maxTyping (inverted : p.maxTyping ≤ p.minTyping) :
    p.typingDelay text = p.maxTyping := by
  ext
  rw [val_typingDelay]
  exact Nat.min_eq_left (Nat.le_trans inverted (Nat.le_max_left _ _))

theorem typingDelay_le_typingDelay (more : text.length ≤ longer.length) :
    p.typingDelay text ≤ p.typingDelay longer := by
  have product := Nat.mul_le_mul_right p.perChar.val more
  rw [Millis.le_def, val_typingDelay, val_typingDelay]
  omega

/-- How long a line is typed, whatever the pacing. It is the number of characters times the time for
one, raised to the shortest typing time and then cut down to the longest, with no last count in between.
So it is never above the longest typing time, and never below the shortest one unless the bounds are
inverted, when it is the longest. A line with no fewer characters takes no less time. -/
theorem delay_of_characters (p : Pacing) (text : String) :
    let characters := text.toList.length
    (p.typingDelay text).val =
      min p.maxTyping.val (max p.minTyping.val (characters * p.perChar.val)) ∧
    p.typingDelay text ≤ p.maxTyping ∧
    (p.minTyping ≤ p.maxTyping → p.minTyping ≤ p.typingDelay text) ∧
    (p.maxTyping < p.minTyping → p.typingDelay text = p.maxTyping) ∧
    ∀ longer : String, characters ≤ longer.toList.length →
      p.typingDelay text ≤ p.typingDelay longer :=
  ⟨val_typingDelay p text, typingDelay_le_maxTyping p text, minTyping_le_typingDelay,
    fun inverted => typingDelay_eq_maxTyping (Millis.le_of_lt inverted),
    fun _ more => typingDelay_le_typingDelay more⟩

end Pacing

namespace Hesitant

/-- Characters of three bytes each. -/
def dots : String := .ofList (List.replicate 25 '…')

def words : String := "Where were you last night"

/-- So slow that two characters take longer than there are counts. -/
def slow : Pacing := ⟨.last, 1000, .ofNat (Millis.maxVal - 1), 500⟩

/-- Longer at least than at most. -/
def inverted : Pacing := ⟨50, 3000, 1000, 500⟩

theorem delay_of_dots :
    dots.utf8ByteSize = 75 ∧ words.utf8ByteSize = 25 ∧ dots.toList.length ≤ words.toList.length ∧
    Pacing.standard.minTyping ≤ Pacing.standard.maxTyping ∧ inverted.maxTyping < inverted.minTyping ∧
    Pacing.standard.typingDelay dots = 1250 ∧
    Pacing.standard.minTyping ≤ Pacing.standard.typingDelay dots ∧
    Pacing.standard.typingDelay dots ≤ Pacing.standard.typingDelay words ∧
    Millis.maxVal < 2 * slow.perChar.val ∧ (slow.typingDelay dots).val = Millis.maxVal - 1 ∧
    inverted.typingDelay dots = 1000 := by
  have room : Pacing.standard.minTyping ≤ Pacing.standard.maxTyping := by decide
  have crossed : inverted.maxTyping < inverted.minTyping := by decide
  have more : dots.toList.length ≤ words.toList.length := by decide
  obtain ⟨value, -, least, -, longer⟩ := Pacing.delay_of_characters .standard dots
  obtain ⟨limit, -⟩ := Pacing.delay_of_characters slow dots
  obtain ⟨-, -, -, longest, -⟩ := Pacing.delay_of_characters inverted dots
  refine ⟨by decide, by decide, more, room, crossed, Millis.ext ?_, least room, longer words more,
    by decide, ?_, longest crossed⟩
  · rw [value]
    decide
  · rw [limit]
    decide

end Hesitant

end Inquest
