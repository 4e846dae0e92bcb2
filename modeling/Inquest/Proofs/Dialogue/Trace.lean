import Inquest.Proofs.Dialogue.Strides
import Mathlib.Computability.Language
/-!
# The trace of a narrator

What a narrator tells of itself makes up a regular language: speeches, each of one line or more, a line
typed and then revealed, and at the end of each speech the word that nothing is left. A narrator is
silent, types or pauses; each of these phases has its own words.
-/

namespace Inquest

open scoped Computability

inductive Beat where
  | started
  | stopped
  | line
  | drained

def Event.beat? : Event → Option Beat
  | typingStarted => some .started
  | typingStopped => some .stopped
  | lineRevealed line => if line.speaker = .narrator then some .line else none
  | queueDrained => some .drained
  | _ => none

def beats (es : List Event) : List Beat := es.filterMap Event.beat?

@[simp] theorem beats_append (es fs : List Event) : beats (es ++ fs) = beats es ++ beats fs := by
  simp [beats]

/-- A line: typed, and then revealed. -/
def passage : Language Beat := {[.started, .stopped, .line]}

/-- A speech: one line or more, and then nothing is left to say. -/
def speech : Language Beat := passage * passage∗ * {[.drained]}

inductive Phase where
  | silent
  | typing
  | pausing

namespace Phase

def cue? : Phase → Option Task
  | silent => none
  | typing => some .reveal
  | pausing => some .resume

/-- What has been told when a phase is reached. -/
def trace : Phase → Language Beat
  | silent => speech∗
  | typing => speech∗ * passage∗ * {[.started]}
  | pausing => speech∗ * (passage * passage∗)

variable {w : List Beat}

theorem nil_mem_trace : [] ∈ silent.trace := Language.nil_mem_kstar speech

/-- The first line of a speech begins. -/
theorem trace_begin (h : w ∈ silent.trace) : w ++ [.started] ∈ typing.trace := by
  have first := Language.append_mem_mul h (Language.nil_mem_kstar passage)
  rw [List.append_nil] at first
  exact Language.append_mem_mul first (Set.mem_singleton _)

/-- A line is revealed. -/
theorem trace_reveal (h : w ∈ typing.trace) : w ++ [.stopped, .line] ∈ pausing.trace := by
  obtain ⟨_, ⟨speeches, told, lines, said, rfl⟩, _, rfl, rfl⟩ := h
  rw [List.append_assoc, List.append_assoc]
  refine Language.append_mem_mul told ?_
  rw [← Language.mul_self_kstar_comm]
  exact Language.append_mem_mul said (Set.mem_singleton _)

/-- The next line of a speech begins. -/
theorem trace_goOn (h : w ∈ pausing.trace) : w ++ [.started] ∈ typing.trace := by
  have lines : speech∗ * (passage * passage∗) ≤ speech∗ * passage∗ :=
    mul_le_mul_right mul_kstar_le_kstar _
  exact Language.append_mem_mul (lines h) (Set.mem_singleton _)

/-- A speech ends. -/
theorem trace_drain (h : w ∈ pausing.trace) : w ++ [.drained] ∈ silent.trace := by
  have last : w ++ [.drained] ∈ speech∗ * speech := by
    rw [speech, ← mul_assoc]
    exact Language.append_mem_mul h (Set.mem_singleton _)
  have whole : speech∗ * speech ≤ speech∗ := kstar_mul_le_kstar
  exact whole last

/-- What has been told at any time is the beginning of whole speeches. -/
theorem exists_append_mem {p : Phase} (h : w ∈ p.trace) : ∃ rest, w ++ rest ∈ speech∗ := by
  cases p with
  | silent => exact ⟨[], by rwa [List.append_nil]⟩
  | typing =>
    refine ⟨[.stopped, .line] ++ [.drained], ?_⟩
    rw [← List.append_assoc]
    exact trace_drain (trace_reveal h)
  | pausing => exact ⟨_, trace_drain h⟩

end Phase

namespace Narrator

def InPhase (n : Narrator) : Phase → Prop
  | .silent => n.busy = false ∧ n.typing = false ∧ n.queue = []
  | .typing => n.busy = true ∧ n.typing = true ∧ n.queue ≠ []
  | .pausing => n.busy = true ∧ n.typing = false

end Narrator

end Inquest
