import FormatConformance.Harness.Setup
import FormatConformance.Proofs.Path.LastParts

/-!
Readers of fixtures. A grammar is missed by a fixture file whose name ends in an extension of some
language; snippets and other files are taken on trust. `ReaderFault` says which error a list of
fixtures calls for: that no grammar is asked for, else the first fixture that misses one. The main
statement is that `checkReaders` ends with that error and passes if there is none, so that it goes
on to pass with further grammars and fewer fixtures.
-/

namespace FormatConformance

namespace Language

variable {extension : String} {language : Language}

theorem ofExtension?_eq_some_iff :
    ofExtension? extension = some language ↔ extension ∈ language.extensions := by
  constructor
  · intro h
    simpa using List.find?_some h
  · have hall : ∀ extension ∈ language.extensions, ofExtension? extension = some language := by
      cases language <;> decide +kernel
    exact hall extension

theorem dot_notMem_of_mem_extensions (h : extension ∈ language.extensions) :
    '.' ∉ extension.toList := by
  have hall : ∀ extension ∈ language.extensions, '.' ∉ extension.toList := by
    cases language <;> decide
  exact hall extension h

end Language

namespace Fixture

variable {fixture : Fixture} {requested : List Grammar}

def IsIn (fixture : Fixture) (language : Language) : Prop :=
  ∃ path stem extension, fixture.path = some path ∧ stem ≠ "" ∧
    Path.fileName? path = some (stem ++ "." ++ extension) ∧ extension ∈ language.extensions

def Readable (requested : List Grammar) (fixture : Fixture) : Prop :=
  ∀ language, fixture.IsIn language → ∃ grammar ∈ requested, grammar.reads language = true

theorem language?_eq_some_iff {language : Language} :
    fixture.language? = some language ↔ fixture.IsIn language := by
  unfold language? IsIn
  simp only [Option.bind_eq_bind, Option.bind_eq_some_iff, Path.extension?_eq_some_iff,
    Language.ofExtension?_eq_some_iff]
  constructor
  · rintro ⟨path, hpath, extension, ⟨-, stem, hstem, hname⟩, hextension⟩
    exact ⟨path, stem, extension, hpath, hstem, hname, hextension⟩
  · rintro ⟨path, stem, extension, hpath, hstem, hname, hextension⟩
    exact ⟨path, hpath, extension,
      ⟨Language.dot_notMem_of_mem_extensions hextension, stem, hstem, hname⟩, hextension⟩

theorem readBy_iff : fixture.readBy requested = true ↔
    ∀ language, fixture.language? = some language →
      ∃ grammar ∈ requested, grammar.reads language = true := by
  unfold readBy
  cases hlanguage : fixture.language? with
  | none => simp
  | some language => simp

theorem readBy_iff_readable : fixture.readBy requested = true ↔ fixture.Readable requested := by
  simp only [readBy_iff, language?_eq_some_iff, Readable]

theorem Readable.mono {requested' : List Grammar} (h : fixture.Readable requested)
    (hsubset : requested ⊆ requested') : fixture.Readable requested' := by
  intro language hlanguage
  obtain ⟨grammar, hgrammar, hreads⟩ := h language hlanguage
  exact ⟨grammar, hsubset hgrammar, hreads⟩

end Fixture

/-- Why fixtures cannot be read: no grammar is asked for, or else none that reads the fixture. All
fixtures before it are read. -/
inductive ReaderFault (directory : String) (fixtures : List Fixture) (requested : List Grammar) :
    ReaderError → Prop
  | noParsers (empty : requested = []) :
      ReaderFault directory fixtures requested (.noParsers directory)
  | unreadable {before after : List Fixture} {fixture : Fixture} (asked : requested ≠ [])
      (listed : fixtures = before ++ fixture :: after)
      (earlier : ∀ other ∈ before, other.Readable requested)
      (unreadable : ¬ fixture.Readable requested) :
      ReaderFault directory fixtures requested (.unreadable fixture.name directory requested)

section Checking

variable {directory : String} {area : Area} {fixtures : List Fixture} {requested : List Grammar}

theorem checkReaders_eq_ok_iff (harea : area ≠ .inference) :
    checkReaders directory area fixtures requested = .ok () ↔
      requested ≠ [] ∧ ∀ fixture ∈ fixtures, fixture.readBy requested = true := by
  unfold checkReaders
  rw [if_neg harea]
  by_cases hempty : requested = []
  · simp [hempty]
  · rw [if_neg (by simpa using hempty)]
    cases hfind : fixtures.find? fun fixture => !fixture.readBy requested with
    | none =>
      have hread := List.find?_eq_none.1 hfind
      exact iff_of_true rfl ⟨hempty, fun fixture hfixture => by simpa using hread fixture hfixture⟩
    | some fixture =>
      have hunread : fixture.readBy requested = false := by simpa using List.find?_some hfind
      refine iff_of_false nofun fun ⟨_, hread⟩ => ?_
      rw [hread fixture (List.mem_of_find?_eq_some hfind)] at hunread
      cases hunread

theorem checkReaders_of_inference : checkReaders directory .inference fixtures requested = .ok () :=
  rfl

theorem find?_unread_eq_some_iff {fixture : Fixture} :
    (fixtures.find? fun fixture => !fixture.readBy requested) = some fixture ↔
      ¬ fixture.Readable requested ∧ ∃ before after, fixtures = before ++ fixture :: after ∧
        ∀ other ∈ before, other.Readable requested := by
  rw [List.find?_eq_some_iff_append]
  simp [← Fixture.readBy_iff_readable]

theorem checkReaders_eq_error_iff {error : ReaderError} :
    checkReaders directory area fixtures requested = .error error ↔
      area ≠ .inference ∧ ReaderFault directory fixtures requested error := by
  constructor
  · intro h
    unfold checkReaders at h
    split at h
    · cases h
    · rename_i harea
      refine ⟨harea, ?_⟩
      split at h
      · rename_i hempty
        cases h
        exact .noParsers (List.isEmpty_iff.1 hempty)
      · rename_i hasked
        split at h
        · rename_i fixture hfind
          obtain ⟨hunread, before, after, hlisted, hearlier⟩ := find?_unread_eq_some_iff.1 hfind
          cases h
          exact .unreadable (by simpa using hasked) hlisted hearlier hunread
        · cases h
  · rintro ⟨harea, hfault⟩
    unfold checkReaders
    rw [if_neg harea]
    cases hfault with
    | noParsers hempty => rw [hempty, if_pos List.isEmpty_nil]
    | unreadable hasked hlisted hearlier hunread =>
      rw [if_neg (by simpa using hasked),
        find?_unread_eq_some_iff.2 ⟨hunread, _, _, hlisted, hearlier⟩]

theorem checkReaders_eq_ok_iff_readable :
    checkReaders directory area fixtures requested = .ok () ↔
      area = .inference ∨ requested ≠ [] ∧ ∀ fixture ∈ fixtures, fixture.Readable requested := by
  by_cases harea : area = .inference
  · subst harea
    exact iff_of_true checkReaders_of_inference (.inl rfl)
  · simp only [checkReaders_eq_ok_iff harea, Fixture.readBy_iff_readable, harea, false_or]

theorem checkReaders_mono {fixtures' : List Fixture} {requested' : List Grammar}
    (hfixtures : fixtures' ⊆ fixtures) (hrequested : requested ⊆ requested')
    (h : checkReaders directory area fixtures requested = .ok ()) :
    checkReaders directory area fixtures' requested' = .ok () := by
  rw [checkReaders_eq_ok_iff_readable] at h ⊢
  rcases h with harea | ⟨hasked, hread⟩
  · exact .inl harea
  · refine .inr ⟨?_, fun fixture hfixture => (hread fixture (hfixtures hfixture)).mono hrequested⟩
    rintro rfl
    exact hasked (List.subset_nil.1 hrequested)

end Checking

/-- The check passes where an engine has to choose a grammar, and where grammars are asked for that
read all fixtures of a known language. Else its error is the fault of the fixtures, which shows the
names of all grammars asked for. Fewer fixtures and further grammars do not make it fail. -/
theorem checkReaders_names_first_unread (directory : String) (area : Area)
    (fixtures : List Fixture) (requested : List Grammar) :
    (checkReaders directory area fixtures requested = .ok () ↔
      area = .inference ∨ requested ≠ [] ∧ ∀ fixture ∈ fixtures, fixture.Readable requested) ∧
    (∀ error, checkReaders directory area fixtures requested = .error error ↔
      area ≠ .inference ∧ ReaderFault directory fixtures requested error) ∧
    (∀ name, (SetupError.readers (.unreadable name directory requested)).message =
      "fixture `" ++ name ++ "` in " ++ directory ++ " cannot be parsed by any of [" ++
        ", ".intercalate (requested.map Grammar.name) ++ "]") ∧
    ∀ fixtures' requested', fixtures' ⊆ fixtures → requested ⊆ requested' →
      checkReaders directory area fixtures requested = .ok () →
      checkReaders directory area fixtures' requested' = .ok () :=
  ⟨checkReaders_eq_ok_iff_readable, fun _ => checkReaders_eq_error_iff, fun _ => rfl,
    fun _ _ => checkReaders_mono⟩

namespace Sample

def trusted : List Fixture :=
  [⟨"snippet: a", none, ['a'], none⟩, ⟨"notes.txt", some "d/notes.txt", ['b'], none⟩,
    ⟨".ts", some "d/.ts", ['c'], none⟩]

def typed : Fixture := ⟨"a.d.ts", some "d/a.d.ts", ['d'], none⟩

def styled : Fixture := ⟨"b.css", some "d/b.css", ['e'], none⟩

end Sample

open Sample in
theorem checkReaders_names_first_unread_typed :
    checkReaders "d" .other (trusted ++ typed :: [styled]) [.babel, .flow] =
        .error (.unreadable "a.d.ts" "d" [.babel, .flow]) ∧
      (SetupError.readers (.unreadable "a.d.ts" "d" [.babel, .flow])).message =
        "fixture `a.d.ts` in d cannot be parsed by any of [babel, flow]" ∧
      checkReaders "d" .other (trusted ++ [typed]) [.babelTs] = .ok () ∧
      checkReaders "d" .other [typed] [.flow, .babelTs] = .ok () := by
  obtain ⟨-, herror, hmessage, -⟩ :=
    checkReaders_names_first_unread "d" .other (trusted ++ typed :: [styled]) [.babel, .flow]
  obtain ⟨hok, -, -, hmono⟩ :=
    checkReaders_names_first_unread "d" .other (trusted ++ [typed]) [.babelTs]
  have hfault : ReaderFault "d" (trusted ++ typed :: [styled]) [.babel, .flow]
      (.unreadable typed.name "d" [.babel, .flow]) := by
    refine .unreadable (by decide) rfl ?_ ?_
    · simp only [← Fixture.readBy_iff_readable]
      decide +kernel
    · rw [← Fixture.readBy_iff_readable]
      decide +kernel
  have hpasses : checkReaders "d" .other (trusted ++ [typed]) [.babelTs] = .ok () := by
    apply hok.2
    simp only [← Fixture.readBy_iff_readable]
    decide +kernel
  exact ⟨(herror _).2 ⟨by decide, hfault⟩, (hmessage _).trans (by decide +kernel), hpasses,
    hmono _ _ (by decide) (by decide) hpasses⟩

end FormatConformance
