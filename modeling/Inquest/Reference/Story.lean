import Inquest.Script.Draft
/-!
# The script of the reference case

The narrator challenges the player to show that the accusation against the suspect does not hold.
-/

namespace Inquest.Reference

def soleOption (label value next : String) : List GateOption := [⟨⟨label, value⟩, next⟩]

def opening : SceneDraft where
  lines := [
    "HEY WATSON! DID YOU LOOK AT THE NEWS?! Scotland Yard used the new AI tool trained on thousands of " ++
      "murder cases and accused \x7bsuspect\x7d for the murder of her step-father Sir Eric Harpe.",
    "But, I don't think she did it.",
    "I have it all figured out, but can YOU prove Scotland Yard wrong, Watson?"]
  exit := .gate .choice
    (soleOption "I am up for a challenge!" "challenge-accepted" "briefing")

def briefing : SceneDraft where
  leadIn := 1000
  lines := [
    "Amazing! Start by proving Flora's innocence to gain access to files on other suspects so we can " ++
      "also find the actual murderer."]
  exit := .gate .choice (soleOption "Got it!" "understood" "explanation")

/-- How the claims are marked, and the question of the verdict. -/
def explanation : SceneDraft where
  leadIn := 1000
  lines := [
    "Here's the AI summary that the Scotland Yard looked at to accuse Flora. Go through it " ++
      "thoroughly. You can verify each piece of information by accessing its source.",
    "The source of information can be accessed if you hover and click on a sentence. There are 3 " ++
      "color highlighters which you can use to mark each line as \"Accurate\", \"Misinformation\" and " ++
      "\"Hallucination\".",
    "This way even I can track what you infer from the AI summary.",
    "When you're ready, let me know if you think Flora is actually guilty or if the evidence is not " ++
      "sufficient to convict her."]
  exit := .gate .verdict [
    ⟨⟨"Flora is guilty based on the evidence", "guilty"⟩, "feedback"⟩,
    ⟨⟨"The evidence is not sufficient to convict Flora", "not-guilty"⟩, "feedback"⟩]

/-- The right verdict on a sheet without mistakes. -/
def praise : BranchDraft where
  verdict := .notGuilty
  allCorrect := true
  lines := [
    "I told you so! You got \x7bcorrect\x7d out of \x7btotal\x7d classifications correct - perfect " ++
      "score!",
    "Here, you can access files on whoever you want now to find the actual killer.",
    "All the individuals involved in the case have AI summaries associated with them to help you " ++
      "save time. I think that thing does a decent job of extracting key information for the files.",
    "Also, I took a look at your highlights on the AI summary, good job on classifying those " ++
      "different pieces of information. Your attention to detail will come in handy for solving the " ++
      "case!"]

/-- The right verdict on a sheet with mistakes. -/
def caution : BranchDraft where
  verdict := .notGuilty
  allCorrect := false
  lines := [
    "I told you so! However, you got \x7bcorrect\x7d correct and \x7bincorrect\x7d incorrect out of " ++
      "\x7btotal\x7d classifications.",
    "Here, you can access files on whoever you want now to find the actual killer.",
    "All the individuals involved in the case have AI summaries associated with them to help you " ++
      "save time. I think that thing does a decent job of extracting key information for the files.",
    "However, before we jump onto solving the case, I took a look at your highlights on the AI " ++
      "summaries, and looks like you might have wrongly classified certain pieces of information.",
    "Here's a corrected sheet…review it to avoid future mistakes!"]

/-- The wrong verdict on a sheet without mistakes. -/
def doubt : BranchDraft where
  verdict := .guilty
  allCorrect := true
  lines := [
    "My dear dear Watson, you got \x7bcorrect\x7d out of \x7btotal\x7d classifications correct, but " ++
      "even after classifying all those pieces of information correctly and looking at all the facts " ++
      "and misrepresentations you don't think there's a lot of ambiguity involved?!",
    "Take my word on this one and investigate the case further to find the real killer."]

/-- The wrong verdict on a sheet with mistakes. -/
def correction : BranchDraft where
  verdict := .guilty
  allCorrect := false
  lines := [
    "My dear dear Watson, you got \x7bcorrect\x7d correct and \x7bincorrect\x7d incorrect out of " ++
      "\x7btotal\x7d classifications.",
    "Looks like your misclassification of the different pieces of information in the AI summary or " ++
      "accepting misrepresentations as facts led you to overlook a lot of ambiguity involved in this " ++
      "summary!",
    "Here's a corrected sheet…review it to avoid future mistakes!",
    "Now, take my word on this one and investigate the case further to find the real killer."]

/-- The narrator's reaction to the verdict. -/
def feedback : SceneDraft where
  leadIn := 2000
  feedback := [praise, caution, doubt, correction]
  exit := .gate .choice (soleOption
    "It's inconclusive that Flora is the murderer. I definitely need to dig deeper."
    "dig-deeper" "closing")

/-- The way on to the other suspects. -/
def closing : SceneDraft where
  lines := [
    "Excellent! Now you're thinking like a true detective.",
    "Let's examine the other suspects more closely. I've unlocked all the case files for you.",
    "Remember to apply the same critical thinking to all the AI summaries - they're not always " ++
      "reliable!"]
  exit := .close

def draft : ScriptDraft where
  title := "The Harpe Case"
  suspect := "Flora Jasmine"
  start := "opening"
  scenes := [("opening", opening), ("briefing", briefing), ("explanation", explanation),
    ("feedback", feedback), ("closing", closing)]
  nodup_names := by decide

def script : Except ScriptError Script := draft.toScript

end Inquest.Reference
