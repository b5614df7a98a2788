import FormatConformance.Fixture
import FormatConformance.Proofs.Json.Fields
import FormatConformance.Proofs.Steps

/-!
What is loaded from a directory. Loading succeeds exactly if every fixture file is a text. The
files that it gives are known by their names, which increase, and by what belongs to them, so
neither the order of a listing nor the entries beside the fixture files count.
-/

namespace FormatConformance

def IsFixtureFile (entry : String × FileNode) : Prop :=
  entry.2 ≠ .directory ∧ isFixtureName entry.1 = true

/-- The fixtures that the entries of a directory stand for. -/
structure FilesOf (dir : String) (listed : List (String × FileNode)) (files : List Fixture) :
    Prop where
  ascending : files.Pairwise fun a b => a.name < b.name
  mem_iff : ∀ fixture, fixture ∈ files ↔ ∃ entry ∈ listed, IsFixtureFile entry ∧
    ∃ content, entry.2.content? = some content ∧
      fixture = ⟨entry.1, some (Path.join dir entry.1), content.toList, none⟩

variable {tree : FileTree} {dir : String} {listed : List (String × FileNode)}
  {files fixtures : List Fixture}

theorem mem_fixtureFiles {entry : String × FileNode} :
    entry ∈ fixtureFiles listed ↔ entry ∈ listed ∧ IsFixtureFile entry := by
  simp [fixtureFiles, IsFixtureFile]

theorem fileFixture_eq_ok_iff {name : String} {node : FileNode} {fixture : Fixture} :
    fileFixture dir name node = .ok fixture ↔ ∃ content, node.content? = some content ∧
      fixture = ⟨name, some (Path.join dir name), content.toList, none⟩ := by
  cases node <;> simp [fileFixture, FileNode.content?, eq_comm]

theorem map_name_of_forall₂ {entries : List (String × FileNode)}
    (h : List.Forall₂ (fun entry fixture => fileFixture dir entry.1 entry.2 = .ok fixture)
      entries fixtures) : fixtures.map Fixture.name = entries.map Prod.fst := by
  induction h with
  | nil => rfl
  | cons hhead _ ih =>
    obtain ⟨content, -, rfl⟩ := fileFixture_eq_ok_iff.1 hhead
    rw [List.map_cons, List.map_cons, ih]

theorem mem_sortByName {fixture : Fixture} : fixture ∈ sortByName fixtures ↔ fixture ∈ fixtures :=
  (List.mergeSort_perm fixtures _).mem_iff

theorem pairwise_sortByName (h : (fixtures.map Fixture.name).Nodup) :
    (sortByName fixtures).Pairwise fun a b => a.name < b.name := by
  have hsorted : (sortByName fixtures).Pairwise fun a b => a.name ≤ b.name := by
    have htrans : ∀ a b c : Fixture, decide (a.name ≤ b.name) = true →
        decide (b.name ≤ c.name) = true → decide (a.name ≤ c.name) = true := by
      simpa using fun a b c : Fixture => String.le_trans (a := a.name) (b := b.name) (c := c.name)
    have htotal : ∀ a b : Fixture,
        (decide (a.name ≤ b.name) || decide (b.name ≤ a.name)) = true := by
      simpa using fun a b : Fixture => String.le_total a.name b.name
    simpa [sortByName] using List.pairwise_mergeSort htrans htotal fixtures
  have hnames : ((sortByName fixtures).map Fixture.name).Nodup :=
    ((List.mergeSort_perm fixtures _).map Fixture.name).nodup_iff.2 h
  have hne : (sortByName fixtures).Pairwise fun a b => a.name ≠ b.name := List.pairwise_map.1 hnames
  refine (hsorted.and hne).imp fun {a b} hab => ?_
  exact String.not_le.1 fun hle => hab.2 (String.le_antisymm hab.1 hle)

theorem FilesOf.unique (h : FilesOf dir listed files) (h' : FilesOf dir listed fixtures) :
    files = fixtures := by
  refine eq_of_increasing Fixture.name h.ascending h'.ascending fun fixture => ?_
  rw [h.mem_iff, h'.mem_iff]

theorem FilesOf.congr {listed' : List (String × FileNode)} (h : FilesOf dir listed files)
    (hsame : ∀ entry, IsFixtureFile entry → (entry ∈ listed ↔ entry ∈ listed')) :
    FilesOf dir listed' files := by
  refine ⟨h.ascending, fun fixture => (h.mem_iff fixture).trans (exists_congr fun entry => ?_)⟩
  exact and_congr_left fun hentry => hsame entry hentry.1

theorem readFixtureFiles_eq_ok_iff (hlist : tree.list dir = .ok listed) :
    readFixtureFiles tree dir = .ok files ↔ ∃ read,
      ((fixtureFiles listed).mapM fun entry => fileFixture dir entry.1 entry.2) = .ok read ∧
        sortByName read = files := by
  have hsteps : readFixtureFiles tree dir =
      ((fixtureFiles listed).mapM fun entry => fileFixture dir entry.1 entry.2) >>= fun read =>
        .ok (sortByName read) := by
    rw [readFixtureFiles, hlist]
    rfl
  rw [hsteps, bind_eq_ok_iff]
  simp only [Except.ok.injEq]

theorem filesOf_readFixtureFiles (hlist : tree.list dir = .ok listed)
    (hnames : (listed.map Prod.fst).Nodup) (h : readFixtureFiles tree dir = .ok files) :
    FilesOf dir listed files := by
  obtain ⟨read, hread, rfl⟩ := (readFixtureFiles_eq_ok_iff hlist).1 h
  constructor
  · apply pairwise_sortByName
    rw [map_name_of_forall₂ (mapM_eq_ok_iff.1 hread)]
    exact hnames.sublist (List.filter_sublist.map Prod.fst)
  · intro fixture
    simp only [mem_sortByName, mem_iff_of_mapM hread, mem_fixtureFiles, fileFixture_eq_ok_iff,
      and_assoc]

theorem exists_readFixtureFiles_eq_ok_iff (hlist : tree.list dir = .ok listed) :
    (∃ files, readFixtureFiles tree dir = .ok files) ↔
      ∀ entry ∈ listed, IsFixtureFile entry → ∃ content, entry.2.content? = some content := by
  have hread : (∃ files, readFixtureFiles tree dir = .ok files) ↔ ∃ read,
      ((fixtureFiles listed).mapM fun entry => fileFixture dir entry.1 entry.2) = .ok read := by
    simp only [readFixtureFiles_eq_ok_iff hlist]
    exact ⟨fun ⟨_, read, h, _⟩ => ⟨read, h⟩, fun ⟨read, h⟩ => ⟨_, read, h, rfl⟩⟩
  rw [hread, exists_mapM_eq_ok_iff]
  simp only [mem_fixtureFiles, fileFixture_eq_ok_iff, and_imp]
  refine forall₃_congr fun entry _ _ => ?_
  exact ⟨fun ⟨_, content, h, _⟩ => ⟨content, h⟩, fun ⟨content, h⟩ => ⟨_, content, h, rfl⟩⟩

theorem readFixtureFiles_eq_ok_iff_filesOf (hlist : tree.list dir = .ok listed)
    (hnames : (listed.map Prod.fst).Nodup) : readFixtureFiles tree dir = .ok files ↔
      (∀ entry ∈ listed, IsFixtureFile entry → ∃ content, entry.2.content? = some content) ∧
        FilesOf dir listed files := by
  refine ⟨fun h => ⟨(exists_readFixtureFiles_eq_ok_iff hlist).1 ⟨files, h⟩,
    filesOf_readFixtureFiles hlist hnames h⟩, fun ⟨htexts, hfiles⟩ => ?_⟩
  obtain ⟨read, hread⟩ := (exists_readFixtureFiles_eq_ok_iff hlist).2 htexts
  rw [hread, (filesOf_readFixtureFiles hlist hnames hread).unique hfiles]

theorem readFixtureFiles_congr {tree' : FileTree} {listed' : List (String × FileNode)}
    (hlist : tree.list dir = .ok listed) (hnames : (listed.map Prod.fst).Nodup)
    (hlist' : tree'.list dir = .ok listed') (hnames' : (listed'.map Prod.fst).Nodup)
    (hsame : ∀ entry, IsFixtureFile entry → (entry ∈ listed' ↔ entry ∈ listed)) :
    readFixtureFiles tree' dir = .ok files ↔ readFixtureFiles tree dir = .ok files := by
  rw [readFixtureFiles_eq_ok_iff_filesOf hlist hnames,
    readFixtureFiles_eq_ok_iff_filesOf hlist' hnames']
  refine and_congr (forall_congr' fun entry => ?_)
    ⟨fun h => h.congr hsame, fun h => h.congr fun entry hentry => (hsame entry hentry).symm⟩
  exact ⟨fun h hmem hentry => h ((hsame entry hentry).2 hmem) hentry,
    fun h hmem hentry => h ((hsame entry hentry).1 hmem) hentry⟩

theorem loadFixtures_eq_ok_iff {snippets : List Snippet} :
    loadFixtures tree dir snippets = .ok fixtures ↔
      ∃ files, readFixtureFiles tree dir = .ok files ∧
        fixtures = files ++ snippetFixtures snippets :=
  bind_eq_ok_iff.trans (by simp only [pure, Except.pure, Except.ok.injEq, eq_comm])

theorem snippetFixtures_eq_mapIdx (snippets : List Snippet) : snippetFixtures snippets =
    snippets.mapIdx fun index snippet => snippet.toFixture index :=
  (List.mapIdx_eq_zipIdx_map (f := fun index snippet => Snippet.toFixture snippet index)).symm

def FileTree.ofEntries (entries : List (String × FileNode)) : FileTree :=
  entries.map fun entry => (home ++ [entry.1], entry.2)

theorem FileTree.list_ofEntries (entries : List (String × FileNode)) :
    (ofEntries entries).list "." = .ok entries := by
  have habsent : (ofEntries entries).lookup home = none := by
    rw [List.lookup_eq_none_iff, ofEntries, List.forall_mem_map]
    exact fun entry _ => by simp [home]
  have hhome : (ofEntries entries).node? home = some .directory := by
    rw [node?, habsent]
    rfl
  have hresolve : (ofEntries entries).resolve "." = .ok home := by
    have hpieces : Path.pieces "." = ["."] := by decide +kernel
    have hpart : Path.part? "." = none := by decide +kernel
    have hrelative : Path.isAbsolute "." = false := by decide +kernel
    rw [resolve, resolveFrom, if_neg (by decide), if_neg (by decide), if_neg (by decide), hpieces]
    simp [hrelative, follow, hhome, hpart, Except.map]
  have hchildren : (ofEntries entries).children home = entries := by
    simp [children, ofEntries, List.filterMap_map]
  simp only [list, hresolve, hhome, hchildren]

theorem loading_ignores_listing_order (hlist : tree.list dir = .ok listed)
    (hnames : (listed.map Prod.fst).Nodup) (snippets : List Snippet) :
    ((∃ fixtures, loadFixtures tree dir snippets = .ok fixtures) ↔
      ∀ entry ∈ listed, IsFixtureFile entry → ∃ content, entry.2.content? = some content) ∧
    (∀ fixtures, loadFixtures tree dir snippets = .ok fixtures → ∃ files,
      FilesOf dir listed files ∧ fixtures = files ++ snippets.mapIdx fun index snippet =>
        { name := "snippet: " ++ snippet.name.getD ("#" ++ toString index)
          path := none
          code := snippet.code.toList
          output := snippet.output.map String.toList }) ∧
    (∀ tree' listed', tree'.list dir = .ok listed' → (listed'.map Prod.fst).Nodup →
      (∀ entry, IsFixtureFile entry → (entry ∈ listed' ↔ entry ∈ listed)) →
      ∀ fixtures, loadFixtures tree' dir snippets = .ok fixtures ↔
        loadFixtures tree dir snippets = .ok fixtures) ∧
    ∀ tree' listed', tree'.list dir = .ok listed' → fixtureFiles listed' = fixtureFiles listed →
      loadFixtures tree' dir snippets = loadFixtures tree dir snippets := by
  refine ⟨?_, fun fixtures h => ?_, fun tree' listed' hlist' hnames' hsame fixtures => ?_,
    fun tree' listed' hlist' hsame => ?_⟩
  · rw [← exists_readFixtureFiles_eq_ok_iff hlist]
    simp only [loadFixtures_eq_ok_iff]
    exact ⟨fun ⟨_, files, h, _⟩ => ⟨files, h⟩, fun ⟨files, h⟩ => ⟨_, files, h, rfl⟩⟩
  · obtain ⟨files, hfiles, rfl⟩ := loadFixtures_eq_ok_iff.1 h
    rw [snippetFixtures_eq_mapIdx]
    exact ⟨files, filesOf_readFixtureFiles hlist hnames hfiles, rfl⟩
  · simp only [loadFixtures_eq_ok_iff, readFixtureFiles_congr hlist hnames hlist' hnames' hsame]
  · rw [loadFixtures, loadFixtures, readFixtureFiles, readFixtureFiles, hlist, hlist']
    simp only [bind, Except.bind, hsame]

theorem loading_ignores_listing_order_rearranged :
    let listed := [("b.js", .text "b"), ("more", .directory), ("a.js", .script "a")]
    let listed' := [("a.js", .script "a"), ("b.js", .text "b"), ("b.snap", .binary)]
    let tree := FileTree.ofEntries listed
    let tree' := FileTree.ofEntries listed'
    let loaded := [⟨"a.js", some "./a.js", ['a'], none⟩, ⟨"b.js", some "./b.js", ['b'], none⟩,
      ⟨"snippet: #0", none, ['s'], none⟩]
    tree.list "." = .ok listed ∧ tree'.list "." = .ok listed' ∧
      loadFixtures tree "." [{ code := "s" }] = .ok loaded ∧
      loadFixtures tree' "." [{ code := "s" }] = .ok loaded := by
  intro listed listed' tree tree' loaded
  have hlist : tree.list "." = .ok listed := FileTree.list_ofEntries listed
  have hlist' : tree'.list "." = .ok listed' := FileTree.list_ofEntries listed'
  obtain ⟨hok, hfiles, hsame, -⟩ :=
    loading_ignores_listing_order hlist (by decide +kernel) [{ code := "s" }]
  have hfixture : ∀ name ∈ ["a.js", "b.js"], isFixtureName name = true := by decide +kernel
  have hjoin : Path.join "." "a.js" = "./a.js" ∧ Path.join "." "b.js" = "./b.js" := by
    decide +kernel
  have hsnap : isFixtureName "b.snap" = false := by decide +kernel
  have htexts : ∀ entry ∈ listed, IsFixtureFile entry →
      ∃ content, entry.2.content? = some content := by
    simp [listed, IsFixtureFile, FileNode.content?]
  have hentries : ∀ entry, IsFixtureFile entry → (entry ∈ listed' ↔ entry ∈ listed) := by
    intro entry hentry
    have hmore : entry ≠ ("more", .directory) := fun h => hentry.1 (congrArg Prod.snd h)
    have hbinary : entry ≠ ("b.snap", .binary) := fun h =>
      absurd (congrArg (fun entry => isFixtureName entry.1) h) (by simp [hentry.2, hsnap])
    simp [listed, listed', hmore, hbinary, or_comm]
  have hloaded : FilesOf "." listed
      [⟨"a.js", some "./a.js", ['a'], none⟩, ⟨"b.js", some "./b.js", ['b'], none⟩] := by
    refine ⟨by decide +kernel, fun fixture => ?_⟩
    simp [listed, IsFixtureFile, FileNode.content?, hfixture, hjoin, or_comm]
  obtain ⟨fixtures, hload⟩ := hok.2 htexts
  obtain ⟨files, hfilesOf, rfl⟩ := hfiles fixtures hload
  obtain rfl := hfilesOf.unique hloaded
  exact ⟨hlist, hlist', hload, (hsame tree' listed' hlist' (by decide +kernel) hentries _).2 hload⟩

end FormatConformance
