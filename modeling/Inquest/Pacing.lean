import Inquest.Disk
import Inquest.Millis
import Inquest.Ron.Shape
/-!
# Pacing

How long the narrator types a line and pauses after it. A pacing can be written in the object
notation, where the shortest typing time may not exceed the longest.
-/

namespace Inquest

structure Pacing where
  perChar : Millis
  minTyping : Millis
  /-- Longest typing time of a line; it wins over the shortest one. -/
  maxTyping : Millis
  linePause : Millis
  deriving DecidableEq, Repr

namespace Pacing

/-- An unhurried typist. -/
def standard : Pacing := ⟨50, 1000, 3000, 500⟩

def instant : Pacing := ⟨0, 0, 0, 0⟩

/-- How long the typing indicator shows before a text appears. -/
def typingDelay (p : Pacing) (text : String) : Millis :=
  min (max (.times text.length p.perChar) p.minTyping) p.maxTyping

end Pacing

def Ron.Value.millis? (v : Ron.Value) : Option Millis := (v.natural? Millis.maxVal).map Millis.ofNat

inductive PacingError where
  | io (detail : String)
  | ron (cause : Ron.Error)
  | inverted (minTyping maxTyping : Millis)
  deriving DecidableEq, Repr

def PacingError.message : PacingError → String
  | io detail => ioMessage detail
  | ron cause => cause.message
  | inverted lo hi =>
    "invalid pacing: min_typing_ms (" ++ toString lo ++ ") exceeds max_typing_ms (" ++ toString hi
      ++ ")"

namespace Pacing

def decode (v : Ron.Value) : Option Pacing := do
  let fs ← v.fields? "Pacing"
    ["per_char_ms", "min_typing_ms", "max_typing_ms", "inter_line_pause_ms"]
  return {
    perChar := ← fs.required "per_char_ms" (·.millis?)
    minTyping := ← fs.required "min_typing_ms" (·.millis?)
    maxTyping := ← fs.required "max_typing_ms" (·.millis?)
    linePause := ← fs.required "inter_line_pause_ms" (·.millis?) }

def parse (s : String) : Except PacingError Pacing := do
  let p ← (Ron.parse (fun _ => decode) s).mapError .ron
  if p.minTyping ≤ p.maxTyping then return p else throw (.inverted p.minTyping p.maxTyping)

def ofFile (file : FileText) : Except PacingError Pacing := do
  parse (← file.mapError .io)

end Pacing

end Inquest
