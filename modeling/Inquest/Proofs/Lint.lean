import Inquest.Lint
import Inquest.Proofs.Conversation.Mode
import Inquest.Proofs.Script.Faults
/-!
# The report of the linter

The linter and the setting up of a conversation go separate ways, and they agree on every script: what the
linter passes can be played, and nothing else passes. Its report counts an error for each file that is no
script, for each error of a script, and for each script whose suspect the answer book does not have.
-/

namespace Inquest

/-- A script in a file can be played exactly if it is read and the check accepts it. -/
theorem Setup.exists_build_of_file_iff {text : FileText} :
    (∃ c, ({ script := .file text } : Setup).build = .ok c) ↔
      ∃ s, Script.ofFile text = .ok s ∧ s.check = .ok () := by
  have setup : ({ script := .file text } : Setup).build =
      (do let s ← Script.ofFile text; s.check; return s : Except ScriptError Script).mapError .script
        >>= fun s => .ok { stage := .opening s .standard .reference none } := rfl
  rw [setup]
  constructor
  · rintro ⟨c, built⟩
    obtain ⟨_, loaded, -⟩ := bind_eq_ok_iff.1 built
    obtain ⟨s, read, rest⟩ := bind_eq_ok_iff.1 (mapError_eq_ok_iff.1 loaded)
    obtain ⟨⟨⟩, checked, -⟩ := bind_eq_ok_iff.1 rest
    exact ⟨s, read, checked⟩
  · rintro ⟨s, read, checked⟩
    refine ⟨_, bind_eq_ok_iff.2 ⟨s, mapError_eq_ok_iff.2 ?_, rfl⟩⟩
    exact bind_eq_ok_iff.2 ⟨s, read, bind_eq_ok_iff.2 ⟨(), checked, rfl⟩⟩

theorem Script.check_eq_ok_iff_countP {s : Script} :
    s.check = .ok () ↔ s.issues.countP (·.isError) = 0 := by
  rw [List.countP_eq_zero, check]
  split
  · rename_i none
    rw [List.isEmpty_iff, errors, List.filter_eq_nil_iff] at none
    simpa using none
  · rename_i some
    rw [List.isEmpty_iff, errors, List.filter_eq_nil_iff] at some
    simpa using some

namespace Lint

def scripts (disk : Disk) (target : String) : List String :=
  match disk.kind target with
  | .missing => []
  | .file => [target]
  | .folder => scriptsBelow disk target

/-- The answer book that the arguments after the target ask for, if they ask for one. -/
def book? (disk : Disk) (args : List String) : Except BookError (Option Book) :=
  match answersPath? none args with
  | none => .ok none
  | some path => (Book.ofFile (disk.read path)).map some

def summaryLine (files errors warnings : Nat) : String :=
  "Summary: " ++ Nat.repr files ++ " files, " ++ Nat.repr errors ++ " errors, " ++ Nat.repr warnings
    ++ " warnings"

def lacks (book : Option Book) (s : Script) : Bool :=
  book.any fun b => s.suspect ∉ b.suspects.map (·.name)

def errorCount (book : Option Book) : Except ScriptError Script → Nat
  | .error _ => 1
  | .ok s => s.issues.countP (·.isError) + if lacks book s then 1 else 0

variable {book : Option Book} {disk : Disk} {target : String} {args : List String}
  {file : Except ScriptError Script} {files : List (String × Except ScriptError Script)}

theorem lacks_eq_false_iff {s : Script} :
    lacks book s = false ↔ ∀ b ∈ book, s.suspect ∈ b.suspects.map (·.name) := by
  cases book <;> simp [lacks]

theorem countP_bookFindings (b : Book) (s : Script) :
    (bookFindings b s).countP (·.severity = .error) = if lacks (some b) s then 1 else 0 := by
  have listed : (b.suspect? s.suspect).isSome ↔ s.suspect ∈ b.suspects.map (·.name) := by
    simp [Book.suspect?]
  unfold bookFindings
  split
  · rename_i missing
    have unlisted : s.suspect ∉ b.suspects.map (·.name) := by
      rw [← listed, missing]
      exact Bool.false_ne_true
    have unknown : lacks (some b) s := by simpa [lacks] using unlisted
    rw [if_pos unknown]
    rfl
  · rename_i f found
    have mem : s.suspect ∈ b.suspects.map (·.name) := by
      rw [← listed, found]
      rfl
    have known : ¬lacks (some b) s := by simpa [lacks] using mem
    rw [if_neg known]
    split <;> rfl

/-- What there is to say about a file has the errors that are counted for it. -/
theorem countP_findings (book : Option Book) (file : Except ScriptError Script) :
    (findings book file).countP (·.severity = .error) = errorCount book file := by
  cases file with
  | error e => rfl
  | ok s =>
    have issues : (s.issues.map fun i => (⟨i.severity, i.message⟩ : Finding)).countP
        (·.severity = .error) = s.issues.countP (·.isError) := List.countP_map
    rw [findings, List.countP_append, issues, errorCount, Nat.add_left_cancel_iff]
    cases book with
    | none => rfl
    | some b => exact countP_bookFindings b s

/-- A file without errors is a script that can be played and whose suspect the book has. -/
theorem errorCount_eq_zero_iff : errorCount book file = 0 ↔
    ∃ s, file = .ok s ∧ s.check = .ok () ∧ ∀ b ∈ book, s.suspect ∈ b.suspects.map (·.name) := by
  cases file with
  | error e => simp [errorCount]
  | ok s =>
    simp only [errorCount, Nat.add_eq_zero_iff, ← Script.check_eq_ok_iff_countP, ← lacks_eq_false_iff]
    simp

/-- The errors by their kinds: files that are no scripts, errors of scripts, and suspects that the book does
not have. -/
theorem sum_errorCount (book : Option Book) (files : List (Except ScriptError Script)) :
    (files.map (errorCount book)).sum =
      files.countP (·.toOption.isNone) +
      ((files.filterMap Except.toOption).map fun s => s.issues.countP (·.isError)).sum +
      (files.filterMap Except.toOption).countP (lacks book) := by
  induction files with
  | nil => rfl
  | cons file files ih =>
    rw [List.map_cons, List.sum_cons, ih, List.countP_cons]
    cases file with
    | error e =>
      simp only [errorCount, Except.toOption, List.filterMap_cons, Option.isNone_none, if_true]
      omega
    | ok s =>
      simp only [errorCount, Except.toOption, List.filterMap_cons, Option.isNone_some,
        Bool.false_eq_true, if_false, List.map_cons, List.sum_cons, List.countP_cons]
      omega

theorem mem_filterMap_toOption {files : List (Except ScriptError Script)} {s : Script} :
    s ∈ files.filterMap Except.toOption ↔ .ok s ∈ files := by
  rw [List.mem_filterMap]
  constructor
  · rintro ⟨file, mem, same⟩
    cases file with
    | error e => cases same
    | ok s' =>
      cases same
      exact mem
  · intro mem
    exact ⟨.ok s, mem, rfl⟩

/-- There is no error in any file exactly if every script can be played and the book has every suspect. -/
theorem sum_errorCount_eq_zero_iff (book : Option Book) (texts : List FileText) :
    ((texts.map Script.ofFile).map (errorCount book)).sum = 0 ↔
      (∀ text ∈ texts, ∃ c, ({ script := .file text } : Setup).build = .ok c) ∧
      ∀ b ∈ book, ∀ s ∈ (texts.map Script.ofFile).filterMap Except.toOption,
        s.suspect ∈ b.suspects.map (·.name) := by
  rw [List.sum_eq_zero_iff_forall_eq_nat, List.forall_mem_map, List.forall_mem_map]
  simp only [errorCount_eq_zero_iff, Setup.exists_build_of_file_iff, mem_filterMap_toOption,
    List.mem_map]
  constructor
  · intro clean
    constructor
    · intro text mem
      obtain ⟨s, read, sound, -⟩ := clean text mem
      exact ⟨s, read, sound⟩
    · rintro b given s ⟨text, mem, read⟩
      obtain ⟨s', read', -, listed⟩ := clean text mem
      obtain rfl : s = s' := Except.ok.inj (read.symm.trans read')
      exact listed b given
  · rintro ⟨playable, listed⟩ text mem
    obtain ⟨s, read, sound⟩ := playable text mem
    exact ⟨s, read, sound, fun b given => listed b given s ⟨text, mem, read⟩⟩

/-- The exit code of a report says whether it has errors, and its last line how many. -/
theorem report_eq (book : Option Book) (files : List (String × Except ScriptError Script)) :
    let errors := (files.map fun f => errorCount book f.2).sum
    (report book files).exit = (if errors = 0 then 0 else 1) ∧
    ∃ lines warnings, (report book files).out =
      Text.ofLines (lines ++ ["", summaryLine files.length errors warnings]) := by
  intro errors
  let found := files.flatMap fun f =>
    (findings book f.2).map fun x => { x with message := f.1 ++ ": " ++ x.message }
  let messages := (found.filter (·.severity = .error)).map (·.message)
  have length : messages.length = errors := by
    have each : ∀ f : String × Except ScriptError Script, ((findings book f.2).map fun x =>
        { x with message := f.1 ++ ": " ++ x.message }).countP (·.severity = .error) =
        errorCount book f.2 := by
      intro f
      rw [List.countP_map, ← countP_findings]
      rfl
    simp only [messages, found, errors, List.length_map, ← List.countP_eq_length_filter,
      List.countP_flatMap, Function.comp_def, each]
  constructor
  · have empty : messages.isEmpty = decide (errors = 0) := by
      rw [← length]
      cases messages <;> rfl
    change (if messages.isEmpty then 0 else 1) = _
    rw [empty]
    simp
  · rw [← length]
    exact ⟨_, _, rfl⟩

/-- With a target that is there, a run of the linter is a report, unless there is a book to load and it does
not load. -/
theorem run_eq (plain : target ≠ "--help" ∧ target ≠ "-h") (there : disk.kind target ≠ .missing) :
    run disk (target :: args) = match book? disk args with
      | .error e => failure ("Failed to load answer book: " ++ e.message)
      | .ok book => report book ((scripts disk target).map fun path =>
          (path, Script.ofFile (disk.read path))) := by
  have noHelp : ¬(target = "--help" || target = "-h") = true := by simp [plain]
  simp only [run, book?, scripts]
  rw [if_neg noHelp]
  cases kind : disk.kind target with
  | missing => exact absurd kind there
  | file | folder =>
    cases answersPath? none args with
    | none => rfl
    | some path =>
      dsimp only
      cases Book.ofFile (disk.read path) <;> rfl

/-- The linter passes a set of scripts exactly if each of them can be played at the standard pace with the
standard answers, and the answer book, if there is one, has the suspect of each of them. Its report counts the
files that are no scripts, the errors of those that are, and the scripts whose suspect the book does not have. -/
theorem report_of_scripts (plain : target ≠ "--help" ∧ target ≠ "-h")
    (there : disk.kind target ≠ .missing) (loaded : book? disk args = .ok book) :
    let files := (scripts disk target).map fun path => Script.ofFile (disk.read path)
    let parsed := files.filterMap Except.toOption
    let outcome := run disk (target :: args)
    (outcome.exit = 0 ↔
      (∀ path ∈ scripts disk target,
        ∃ c, ({ script := .file (disk.read path) } : Setup).build = .ok c) ∧
      ∀ b ∈ book, ∀ s ∈ parsed, s.suspect ∈ b.suspects.map (·.name)) ∧
    (outcome.exit = 0 ∨ outcome.exit = 1) ∧
    ∃ lines warnings, outcome.out = Text.ofLines (lines ++ ["", summaryLine files.length
      (files.countP (·.toOption.isNone) + (parsed.map fun s => s.issues.countP (·.isError)).sum +
        parsed.countP (lacks book)) warnings]) := by
  intro files parsed outcome
  let texts := (scripts disk target).map disk.read
  have read : files = texts.map Script.ofFile := by
    rw [List.map_map]
    rfl
  obtain ⟨exit, lines, warnings, out⟩ := report_eq book ((scripts disk target).map fun path =>
    (path, Script.ofFile (disk.read path)))
  have ran : outcome = report book ((scripts disk target).map fun path =>
      (path, Script.ofFile (disk.read path))) := by
    simp only [outcome, run_eq plain there, loaded]
  have errors : (((scripts disk target).map fun path => (path, Script.ofFile (disk.read path))).map
      fun f => errorCount book f.2).sum = (files.map (errorCount book)).sum := by
    rw [List.map_map, List.map_map]
    rfl
  rw [← ran, errors] at exit out
  refine ⟨?_, ?_, lines, warnings, ?_⟩
  · have passes : outcome.exit = 0 ↔ (files.map (errorCount book)).sum = 0 := by
      rw [exit]
      split <;> simp_all
    simp only [passes, parsed, read, sum_errorCount_eq_zero_iff, texts, List.forall_mem_map]
  · rw [exit]
    split
    · exact .inl rfl
    · exact .inr rfl
  · rw [out, sum_errorCount, List.length_map, List.length_map]

end Lint

namespace Desk

/-- A folder with a script that can be played, one with errors, a text that is no script, and a book that has
the suspect of the first script alone. -/
def folder : FileTree := [
  (["case", "fine.ron"], .ok
    "(title:\"A\",suspect:\"Ada\",start:\"a\",scenes:\x7b\"a\":(exit:End)\x7d)"),
  (["case", "loose.ron"], .ok
    "(title:\"B\",suspect:\"Bob\",start:\"b\",scenes:\x7b\"a\":(exit:Continue(\"c\"))\x7d)"),
  (["case", "torn.ron"], .ok "(title:\"C\""),
  (["case", "answers.ron"], .ok "(suspects:[(name:\"Ada\",entries:[])])")]

def disk : Disk := .ofFiles folder

def book : Book := ⟨[⟨"Ada", []⟩]⟩

theorem scripts_disk : Lint.scripts disk "case" = ["case/fine.ron", "case/loose.ron", "case/torn.ron"] := by
  have kind : disk.kind "case" = .folder := by decide +kernel
  have found : ((disk.below "case").filter fun cs => cs.getLast?.any Lint.isScriptName) =
      [["fine.ron"], ["loose.ron"], ["torn.ron"]] := by decide +kernel
  simp only [Lint.scripts, kind, Lint.scriptsBelow, found]
  rw [List.mergeSort_of_pairwise (by decide)]
  decide +kernel

/-- The linter counts one error for the text that is no script, two for the script with errors (its start and
one of its targets are missing), and one for the suspect of that script. -/
theorem report_of_folder :
    disk.kind "case" ≠ .missing ∧
    Lint.book? disk ["--answers", "case/answers.ron"] = .ok (some book) ∧
    (Lint.run disk ["case", "--answers", "case/answers.ron"]).exit = 1 ∧
    ∃ lines warnings, (Lint.run disk ["case", "--answers", "case/answers.ron"]).out =
      Text.ofLines (lines ++ ["", Lint.summaryLine 3 (1 + 2 + 1) warnings]) := by
  have there : disk.kind "case" ≠ .missing := by decide +kernel
  have loaded : Lint.book? disk ["--answers", "case/answers.ron"] = .ok (some book) := by
    decide +kernel
  obtain ⟨passes, code, lines, warnings, out⟩ :=
    Lint.report_of_scripts (by decide : "case" ≠ "--help" ∧ "case" ≠ "-h") there loaded
  rw [scripts_disk] at passes out
  simp only [Script.countP_issues] at out
  let files := ["case/fine.ron", "case/loose.ron", "case/torn.ron"].map fun path =>
    Script.ofFile (disk.read path)
  let parsed := files.filterMap Except.toOption
  have counts : (files.countP (·.toOption.isNone),
      (parsed.map fun s => (if s.start ∈ s.names then 0 else 1) +
        (s.scenes.map (·.exit.faults s.names)).sum).sum,
      parsed.countP (Lint.lacks (some book))) = (1, 2, 1) := by decide +kernel
  obtain ⟨torn, faulty, unlisted⟩ : _ ∧ _ ∧ _ := by simpa only [Prod.mk.injEq] using counts
  rw [torn, faulty, unlisted] at out
  refine ⟨there, loaded, code.resolve_left fun zero => ?_, lines, warnings, out⟩
  have listed := (passes.1 zero).2 book rfl
  have known : parsed.countP (Lint.lacks (some book)) = 0 := by
    rw [List.countP_eq_zero]
    intro s mem
    rw [Bool.not_eq_true, Lint.lacks_eq_false_iff]
    intro b given
    cases given
    exact listed s mem
  exact absurd (unlisted.symm.trans known) (by decide)

end Desk

end Inquest
