import Inquest.Answers.Book
/-!
# The answers of the reference case

The book that comes with the library. It stands in for a book that could not be loaded.
-/

namespace Inquest.Reference

def page (name : String) : String :=
  "/assets/file-system/suspects/flora-jasmine/" ++ name ++ ".html"

def entries : List AnswerEntry := [
  ⟨1, .supported, some (page "personal-profile")⟩,
  ⟨2, .misleading, some (page "police-statement")⟩,
  ⟨3, .misleading, some (page "police-statement")⟩,
  ⟨4, .supported, some (page "timeline-analysis")⟩,
  ⟨5, .supported, some (page "academic-research")⟩,
  ⟨6, .supported, some (page "financial-records")⟩,
  ⟨7, .misleading, some (page "timeline-analysis")⟩,
  ⟨8, .fabricated, none⟩,
  ⟨9, .fabricated, none⟩,
  ⟨10, .supported, some (page "financial-records")⟩,
  ⟨11, .misleading, some (page "timeline-analysis")⟩,
  ⟨12, .fabricated, none⟩,
  ⟨13, .fabricated, none⟩,
  ⟨14, .supported, some (page "academic-research")⟩,
  ⟨15, .supported, some (page "timeline-analysis")⟩,
  ⟨16, .supported, some (page "timeline-analysis")⟩,
  ⟨17, .supported, some (page "timeline-analysis")⟩,
  ⟨18, .supported, some (page "timeline-analysis")⟩,
  ⟨19, .supported, some (page "timeline-analysis")⟩]

def book : Book := ⟨[⟨"Flora Jasmine", entries⟩]⟩

end Inquest.Reference
