import Inquest.Answers.Store
import Inquest.Proofs.Answers.Book
/-!
# What an answer store knows

A store is asked for the key of a suspect when it is graded, and for a single claim when that is
revealed. As long as all its books were read, the two always agree, in whatever order loads come in and
whether they succeed or not.
-/

namespace Inquest

namespace AnswerStore

/-- How a store begins. All but the first way give it a book to begin with. -/
inductive Origin where
  | loading
  | reference
  | ready (book : Book)
  | file (text : FileText)

def Origin.store : Origin → AnswerStore
  | loading => .loading
  | reference => .reference
  | ready book => .ready book
  | file text => .ofFile text

def finishAll (s : AnswerStore) (results : List (Except BookError Book)) : AnswerStore :=
  results.foldl finish s

@[simp] theorem finishAll_nil (s : AnswerStore) : s.finishAll [] = s := rfl
@[simp] theorem finishAll_cons (s : AnswerStore) (result : Except BookError Book)
    (results : List (Except BookError Book)) :
    s.finishAll (result :: results) = (s.finish result).finishAll results := rfl

/-- The book of the store is sound, if it has one. -/
def Sound (s : AnswerStore) : Prop := ∀ book, s.book? = some book → book.Sound

variable {s t : AnswerStore} {book book' : Book} {suspect : String} {claim : ClaimId}
  {e : AnswerEntry} {k : AnswerKey} {result : Except BookError Book}
  {results : List (Except BookError Book)}

theorem book?_eq_none_iff : s.book? = none ↔ s = .loading := by
  cases s <;> simp [book?]

/-- A load that fails leaves the store with the book of the reference case. -/
theorem sound_finish (given : ∀ book, result = .ok book → book.Sound) : (s.finish result).Sound := by
  intro book hb
  cases result with
  | ok book =>
    cases hb
    exact given book rfl
  | error cause =>
    cases hb
    exact Book.sound_reference

theorem sound_ofFile (file : FileText) : (ofFile file).Sound :=
  sound_finish fun _ hb => (Book.parsed_of_ofFile hb).sound

theorem Sound.finishAll (h : s.Sound) (given : ∀ book, .ok book ∈ results → book.Sound) :
    (s.finishAll results).Sound := by
  induction results generalizing s with
  | nil => exact h
  | cons result results ih =>
    have sound : (s.finish result).Sound :=
      sound_finish fun book hb => given book (by simp [hb])
    exact ih sound fun book mem => given book (List.mem_cons_of_mem _ mem)

theorem Origin.sound_store {o : Origin} (given : ∀ book, o = .ready book → book.Sound) :
    o.store.Sound := by
  intro book hb
  cases o with
  | loading => cases hb
  | reference =>
    cases hb
    exact Book.sound_reference
  | ready book =>
    cases hb
    exact given book rfl
  | file text => exact sound_ofFile text book hb

theorem finish_ne_loading : s.finish result ≠ .loading := by
  cases result <;> nofun

/-- A store loads until it has been given a book or a load has been completed. -/
theorem finishAll_eq_loading_iff : s.finishAll results = .loading ↔ s = .loading ∧ results = [] := by
  induction results generalizing s with
  | nil => simp
  | cons result results ih => simp [ih, finish_ne_loading]

theorem Origin.store_eq_loading_iff {o : Origin} : o.store = .loading ↔ o = .loading := by
  cases o with
  | file => simp [store, ofFile, finish_ne_loading]
  | _ => simp [store, AnswerStore.reference]

theorem answerKey?_eq_some_iff : s.answerKey? suspect = some k ↔ ∃ book file,
    s.book? = some book ∧ book.suspect? suspect = some file ∧ k = .ofEntries file.entries := by
  cases hb : s.book? with
  | none => simp [answerKey?, hb]
  | some book => cases hf : book.suspect? suspect <;> simp [answerKey?, hb, hf, eq_comm]

theorem lookup_eq_notLoaded_iff : s.lookup suspect claim = .notLoaded ↔ s = .loading := by
  rw [← book?_eq_none_iff]
  cases hb : s.book? with
  | none => simp [lookup, hb]
  | some book =>
    simp only [lookup, hb]
    split <;> simp

theorem lookup_eq_found_iff : s.lookup suspect claim = .found e ↔ ∃ book file,
    s.book? = some book ∧ book.suspect? suspect = some file ∧
      file.entries.find? (·.claim = claim) = some e := by
  cases hb : s.book? with
  | none => simp [lookup, hb]
  | some book =>
    cases hf : book.suspect? suspect with
    | none => simp [lookup, hb, hf]
    | some file =>
      cases he : file.entries.find? (·.claim = claim) <;> simp [lookup, hb, hf, he]

theorem found?_lookup_eq_some_iff :
    (s.lookup suspect claim).found? = some e ↔ s.lookup suspect claim = .found e := by
  cases s.lookup suspect claim <;> simp [Lookup.found?]

/-- What is found for a claim is what the key has for it. -/
theorem Sound.lookup_eq_found_iff (h : s.Sound) : s.lookup suspect claim = .found e ↔
    ∃ k, s.answerKey? suspect = some k ∧ k.get? claim = some e := by
  rw [AnswerStore.lookup_eq_found_iff]
  constructor
  · rintro ⟨book, file, hb, hf, he⟩
    refine ⟨_, answerKey?_eq_some_iff.2 ⟨book, file, hb, hf, rfl⟩, ?_⟩
    rwa [((h book hb).distinct hf).get?_ofEntries]
  · rintro ⟨k, hk, he⟩
    obtain ⟨book, file, hb, hf, rfl⟩ := answerKey?_eq_some_iff.1 hk
    rw [((h book hb).distinct hf).get?_ofEntries] at he
    exact ⟨book, file, hb, hf, he⟩

/-- Nothing is found for a claim that the key does not have. -/
theorem Sound.lookup_eq_missing_iff (h : s.Sound) : s.lookup suspect claim = .missing ↔
    s ≠ .loading ∧ ∀ k, s.answerKey? suspect = some k → k.get? claim = none := by
  have loaded : s.lookup suspect claim = .notLoaded ↔ s = .loading := lookup_eq_notLoaded_iff
  have found : ∀ e, s.lookup suspect claim = .found e ↔
      ∃ k, s.answerKey? suspect = some k ∧ k.get? claim = some e := fun e => h.lookup_eq_found_iff
  cases hl : s.lookup suspect claim with
  | notLoaded => simp [loaded.1 hl]
  | found e =>
    obtain ⟨k, hk, he⟩ := (found e).1 hl
    refine iff_of_false nofun fun none => ?_
    simp [none.2 k hk] at he
  | missing =>
    refine iff_of_true rfl ⟨fun loading => ?_, fun k hk => Option.eq_none_iff_forall_ne_some.2 ?_⟩
    · simp [hl] at loaded
      exact loaded loading
    · intro e he
      have other := (found e).2 ⟨k, hk, he⟩
      simp [hl] at other

/-- Stores with the same book know the same. -/
theorem lookup_congr (same : t.book? = s.book?) : t.lookup = s.lookup := by
  funext suspect claim
  simp only [lookup, same]

theorem answerKey?_congr (same : t.book? = s.book?) : t.answerKey? = s.answerKey? := by
  funext suspect
  simp only [answerKey?, same]

/-- The order of the entries in the files of a book does not show. -/
theorem answerKey?_shuffled (sound : book.Sound) (h : book.Shuffled book') :
    (ready book').answerKey? = (ready book).answerKey? := by
  funext suspect
  rcases h.suspect? suspect with ⟨none, none'⟩ | ⟨f, f', hf, hf', perm⟩
  · simp [answerKey?, book?, none, none']
  · simp [answerKey?, book?, hf, hf', (sound.distinct hf).ofEntries_perm perm]

theorem lookup_shuffled (sound : book.Sound) (h : book.Shuffled book') :
    (ready book').lookup = (ready book).lookup := by
  funext suspect claim
  rcases h.suspect? suspect with ⟨none, none'⟩ | ⟨f, f', hf, hf', perm⟩
  · simp [lookup, book?, none, none']
  · simp [lookup, book?, hf, hf', (sound.distinct hf).find?_perm perm]

/-- However a store begins and whatever loads are completed, the look-up of a claim and the key of the
suspect agree, if all books given were read. Nothing is loaded exactly as long as there was no book and
no load; else the claim has what the key has for it. The key has as many entries as the first file of
the suspect, and the order of the entries in a file does not show. Once something was loaded the store
never loads again, and after a load that failed it knows what the reference case tells. -/
theorem lookups_of_loads {read : Ron.Reading Book} (o : Origin)
    (results : List (Except BookError Book))
    (given : ∀ book, o = .ready book ∨ .ok book ∈ results → book.Parsed read) :
    let s := o.store.finishAll results
    (∀ suspect claim,
      (s.lookup suspect claim = .notLoaded ↔ o = .loading ∧ results = []) ∧
      (∀ e, s.lookup suspect claim = .found e ↔
        ∃ k, s.answerKey? suspect = some k ∧ k.get? claim = some e) ∧
      (s.lookup suspect claim = .missing ↔ ¬(o = .loading ∧ results = []) ∧
        ∀ k, s.answerKey? suspect = some k → k.get? claim = none)) ∧
    (∀ suspect k, s.answerKey? suspect = some k → ∃ book file, s.book? = some book ∧
      book.suspect? suspect = some file ∧ k.size = file.entries.length) ∧
    (∀ book book', s.book? = some book → book.Shuffled book' →
      (ready book').lookup = s.lookup ∧ (ready book').answerKey? = s.answerKey?) ∧
    (¬(o = .loading ∧ results = []) → ∀ later, s.finishAll later ≠ .loading ∧
      (s.finishAll later).status ≠ AnswerStore.loading.status) ∧
    (∀ cause, (s.finish (.error cause)).lookup = reference.lookup ∧
      (s.finish (.error cause)).answerKey? = reference.answerKey?) ∧
    ∀ file cause, Book.ofFile file = .error cause →
      (ofFile file).lookup = reference.lookup ∧ (ofFile file).answerKey? = reference.answerKey? := by
  intro s
  have sound : s.Sound :=
    (Origin.sound_store fun book ho => (given book (.inl ho)).sound).finishAll
      fun book mem => (given book (.inr mem)).sound
  have loading : s = .loading ↔ o = .loading ∧ results = [] := by
    rw [finishAll_eq_loading_iff, Origin.store_eq_loading_iff]
  refine ⟨fun suspect claim => ⟨?_, fun e => sound.lookup_eq_found_iff, ?_⟩, ?_, ?_, ?_, ?_, ?_⟩
  · rw [lookup_eq_notLoaded_iff, loading]
  · rw [sound.lookup_eq_missing_iff, ne_eq, loading]
  · intro suspect k hk
    obtain ⟨book, file, hb, hf, rfl⟩ := answerKey?_eq_some_iff.1 hk
    exact ⟨book, file, hb, hf, ((sound book hb).distinct hf).size_ofEntries⟩
  · intro book book' hb h
    have same : (ready book).book? = s.book? := hb.symm
    rw [← lookup_congr same, ← answerKey?_congr same]
    exact ⟨lookup_shuffled (sound book hb) h, answerKey?_shuffled (sound book hb) h⟩
  · intro loaded later
    have stays : s.finishAll later ≠ .loading := fun h =>
      loaded (loading.1 (finishAll_eq_loading_iff.1 h).1)
    refine ⟨stays, ?_⟩
    cases hs : s.finishAll later with
    | loading => exact absurd hs stays
    | ready | fallback => simp [status]
  · exact fun cause => ⟨rfl, rfl⟩
  · intro file cause failed
    have fell : ofFile file = .fallback Reference.book cause := by rw [ofFile, failed]; rfl
    rw [fell]
    exact ⟨rfl, rfl⟩

end AnswerStore

/-! A short book: two claims about one suspect, and a second file of the same name. -/

namespace Ada

def text : String := "(suspects: [(name: \"Ada\", entries: [(claim: 2, category: Red, source: " ++
  "Some(\"/ada.html\")), (claim: 1, category: Green)]), (name: \"Ada\", entries: [])])"

def book : Book := ⟨[⟨"Ada", [⟨2, .misleading, some "/ada.html"⟩, ⟨1, .supported, none⟩]⟩, ⟨"Ada", []⟩]⟩

theorem parsed_book : book.Parsed (Ron.parse Book.decode) := ⟨text, by decide +kernel⟩

/-- A load that failed, and then the book. -/
def loads : List (Except BookError Book) := [.error (.io "no such file"), .ok book]

/-- When the book has come at last, all of its first file is in the key. -/
theorem lookups_of_second_load :
    (∀ b, AnswerStore.Origin.loading = .ready b ∨ .ok b ∈ loads → b.Parsed (Ron.parse Book.decode)) ∧
    book.Parsed (Ron.parse Book.decode) ∧
    let s := AnswerStore.Origin.loading.store.finishAll loads
    s.lookup "Ada" 2 = .found ⟨2, .misleading, some "/ada.html"⟩ ∧ s.lookup "Ada" 3 ≠ .notLoaded ∧
    ∃ k, s.answerKey? "Ada" = some k ∧
      k.get? 2 = some ⟨2, .misleading, some "/ada.html"⟩ ∧ k.size = 2 := by
  have given : ∀ b, AnswerStore.Origin.loading = .ready b ∨ .ok b ∈ loads →
      b.Parsed (Ron.parse Book.decode) := by
    intro b hb
    obtain rfl : b = book := by simpa [loads] using hb
    exact parsed_book
  obtain ⟨agree, whole, -⟩ := AnswerStore.lookups_of_loads .loading loads given
  have found : (AnswerStore.Origin.loading.store.finishAll loads).lookup "Ada" 2 =
      .found ⟨2, .misleading, some "/ada.html"⟩ := by decide
  refine ⟨given, parsed_book, found, ?_, ?_⟩
  · exact fun waiting => nomatch ((agree "Ada" 3).1.1 waiting).2
  · obtain ⟨k, hk, entry⟩ := ((agree "Ada" 2).2.1 _).1 found
    obtain ⟨b, file, arrived, first, size⟩ := whole "Ada" k hk
    cases arrived
    cases first
    exact ⟨k, hk, entry, size⟩

end Ada

end Inquest
