import Mathlib.Algebra.GroupWithZero.Nat
import FormatConformance.CommandLine.Session
import FormatConformance.Proofs.Harness.SetupFaults

/-!
Sessions over several directories. At its turn a directory is visited, or there is an obstacle: it
cannot be resolved or not be set up. A session visits the directories in their order, each over the
files that the ones before it have left, up to the first obstacle; its calls are those of the
visits, and it succeeds exactly if all directories are visited and no entry of any of them fails.
-/

namespace FormatConformance

theorem Report.failures_eq_nil_iff {report : Report} :
    report.failures = [] ↔ ∀ outcome ∈ report, outcome.result = .ok () := by
  rw [← Report.isSuccess_iff, Report.isSuccess, List.isEmpty_iff]

namespace CommandLine

structure Visit where
  path : String
  report : Report
  calls : List Call

def Visit.Passed (v : Visit) : Prop := ∀ outcome ∈ v.report, outcome.result = .ok ()

theorem Ending.status_finished_eq_zero_iff {failures entries : Nat} :
    (finished failures entries).status = 0 ↔ failures = 0 := by
  unfold status
  split <;> simp_all

namespace Request

structure Ready (r : Request) (place : Workplace) (program root : String) : Prop where
  standalone : r.standalone = true → r.standaloneEngine = some program
  ordinary : r.standalone = false → r.engine = program
  root : place.canonical r.root = .ok root

variable {stores : Stores} {engine : Engine} {settings : Settings}
  {place last : Workplace} {dir : String} {dirs : List String} {visits : List Visit}
  {ending : Ending}

structure Visits (stores : Stores) (engine : Engine) (settings : Settings)
    (place : Workplace) (dir : String) (visit : Visit) (next : Workplace) : Prop where
  resolved : place.canonical dir = .ok visit.path
  setUp : ∀ error, ¬ SetupFault settings place.tree visit.path error
  run : ∃ files, (harness stores engine settings visit.path).runDirectory place.tree visit.path
    place.tree = ⟨(.ok visit.report, files), visit.calls⟩ ∧ next = place.withTree files

/-- Why a directory is not run at its turn, with the ending that this gives the session. -/
inductive Obstacle (settings : Settings) (place : Workplace) (dir : String) : Ending → Prop
  | unresolved {trouble : FileTrouble} (unresolved : place.canonical dir = .error trouble) :
      Obstacle settings place dir (.noDirectory trouble)
  | notSetUp {path : String} {error : SetupError} (resolved : place.canonical dir = .ok path)
      (fault : SetupFault settings place.tree path error) :
      Obstacle settings place dir (.notSetUp error)

inductive Visited (stores : Stores) (engine : Engine) (settings : Settings) :
    Workplace → List String → List Visit → Workplace → Prop
  | nil {place : Workplace} : Visited stores engine settings place [] [] place
  | cons {place next last : Workplace} {dir : String} {dirs : List String} {visit : Visit}
      {visits : List Visit} (first : Visits stores engine settings place dir visit next)
      (rest : Visited stores engine settings next dirs visits last) :
      Visited stores engine settings place (dir :: dirs) (visit :: visits) last

theorem Obstacle.status (h : Obstacle settings place dir ending) : ending.status = 1 := by
  cases h <;> rfl

theorem visits_or_obstacle (stores : Stores) (engine : Engine)
    (settings : Settings) (place : Workplace) (dir : String) :
    (∃ visit next, Visits stores engine settings place dir visit next) ∨
      ∃ ending, Obstacle settings place dir ending := by
  cases hresolved : place.canonical dir with
  | error trouble => exact .inr ⟨_, .unresolved hresolved⟩
  | ok path =>
    let h := harness stores engine settings path
    cases hprepared : prepareDirectory h.exceptions h.settings place.tree path with
    | error error => exact .inr ⟨_, .notSetUp hresolved (prepareDirectory_eq_error_iff.1 hprepared)⟩
    | ok runs =>
      have hfaultless : ∀ error, ¬ SetupFault settings place.tree path error := by
        intro error hfault
        have hfailed := (prepareDirectory_eq_error_iff.2 hfault).symm.trans hprepared
        cases hfailed
      have hvalue := h.runDirectory_value hprepared place.tree
      exact .inl ⟨⟨path, _, (h.runDirectory place.tree path place.tree).calls⟩, _, hresolved,
        hfaultless, _, Logged.ext hvalue rfl, rfl⟩

theorem visited_or_obstacle (stores : Stores) (engine : Engine)
    (settings : Settings) (place : Workplace) (dirs : List String) :
    (∃ visits last, Visited stores engine settings place dirs visits last) ∨
      ∃ before dir after visits last ending, dirs = before ++ dir :: after ∧
        Visited stores engine settings place before visits last ∧
        Obstacle settings last dir ending := by
  induction dirs generalizing place with
  | nil => exact .inl ⟨[], place, .nil⟩
  | cons dir rest ih =>
    rcases visits_or_obstacle stores engine settings place dir with
      ⟨visit, next, hvisit⟩ | ⟨ending, hobstacle⟩
    · rcases ih next with ⟨visits, last, hrest⟩ |
        ⟨before, stuck, after, visits, last, ending, rfl, hbefore, hobstacle⟩
      · exact .inl ⟨visit :: visits, last, .cons hvisit hrest⟩
      · exact .inr ⟨dir :: before, stuck, after, visit :: visits, last, ending, rfl,
          .cons hvisit hbefore, hobstacle⟩
    · exact .inr ⟨[], dir, rest, [], place, ending, rfl, .nil, hobstacle⟩

theorem runDirectories_visits {visit : Visit} {next : Workplace}
    (h : Visits stores engine settings place dir visit next) (rest : List String)
    (reports : List Report) :
    runDirectories stores engine settings (dir :: rest) place reports =
      let later := runDirectories stores engine settings rest next (reports ++ [visit.report])
      ⟨later.value, visit.calls ++ later.calls⟩ := by
  obtain ⟨files, hrun, rfl⟩ := h.run
  simp only [runDirectories, h.resolved, hrun]
  rfl

theorem runDirectories_obstacle (h : Obstacle settings place dir ending) (rest : List String)
    (reports : List Report) :
    runDirectories stores engine settings (dir :: rest) place reports =
      ⟨⟨place.tree, reports, ending⟩, []⟩ := by
  cases h with
  | unresolved hunresolved =>
    simp only [runDirectories, hunresolved]
    rfl
  | @notSetUp path error hresolved hfault =>
    have hrun := (harness stores engine settings path).runDirectory_of_error
      (prepareDirectory_eq_error_iff.2 hfault) place.tree
    simp only [runDirectories, hresolved, hrun]
    rfl

theorem runDirectories_append (h : Visited stores engine settings place dirs visits last)
    (rest : List String) (reports : List Report) :
    runDirectories stores engine settings (dirs ++ rest) place reports =
      let later := runDirectories stores engine settings rest last
        (reports ++ visits.map Visit.report)
      ⟨later.value, visits.flatMap Visit.calls ++ later.calls⟩ := by
  induction h generalizing reports with
  | nil => simp
  | cons first _ ih =>
    rw [List.cons_append, runDirectories_visits first, ih]
    simp only [List.map_cons, List.flatMap_cons, List.append_assoc, List.singleton_append]

theorem runDirectories_visited (h : Visited stores engine settings place dirs visits last)
    (reports : List Report) :
    runDirectories stores engine settings dirs place reports =
      ⟨.ofReports last.tree (reports ++ visits.map Visit.report),
        visits.flatMap Visit.calls⟩ := by
  have happend := runDirectories_append h [] reports
  rw [List.append_nil] at happend
  rw [happend]
  simp [runDirectories]

variable {r : Request} {program root : String} {launch : Launcher} {keep : Keeper}
  {environment : Environment}

theorem Ready.program? (h : r.Ready place program root) : r.program? = some program := by
  unfold Request.program?
  by_cases hstandalone : r.standalone = true
  · rw [if_pos hstandalone, h.standalone hstandalone]
  · rw [if_neg hstandalone, h.ordinary (eq_false_of_ne_true hstandalone)]

theorem run_of_ready (h : r.Ready place program root) :
    r.run launch keep place environment =
      runDirectories (keep place environment r.accepting)
        (launch place program) (r.settings root) r.directories place [] := by
  simp only [run, h.root, h.program?]

theorem exists_ready_of_status
    (h : (r.run launch keep place environment).value.ending.status = 0) :
    ∃ program root, r.Ready place program root := by
  unfold run at h
  cases hroot : place.canonical r.root with
  | error trouble =>
    simp only [hroot] at h
    cases h
  | ok root =>
    cases hprogram : r.program? with
    | none =>
      simp only [hroot, hprogram] at h
      cases h
    | some program =>
      unfold Request.program? at hprogram
      refine ⟨program, root, fun hstandalone => ?_, fun hordinary => ?_, hroot⟩
      · rwa [if_pos hstandalone] at hprogram
      · rw [if_neg (ne_true_of_eq_false hordinary)] at hprogram
        exact Option.some.inj hprogram

theorem status_ofReports_eq_zero_iff {files : FileTree} :
    (Session.ofReports files (visits.map Visit.report)).ending.status = 0 ↔
      ∀ visit ∈ visits, visit.Passed := by
  rw [Session.ofReports, Ending.status_finished_eq_zero_iff, List.length_eq_zero_iff,
    List.flatMap_eq_nil_iff, List.forall_mem_map]
  exact forall₂_congr fun _ _ => Report.failures_eq_nil_iff

theorem run_status_eq_zero_iff (r : Request) (launch : Launcher) (keep : Keeper)
    (place : Workplace) (environment : Environment) :
    let stores := keep place environment r.accepting
    (r.run launch keep place environment).value.ending.status = 0 ↔
      ∃ program root, r.Ready place program root ∧
        ∃ visits last, Visited stores (launch place program) (r.settings root) place r.directories
          visits last ∧ ∀ visit ∈ visits, visit.Passed := by
  intro stores
  constructor
  · intro hstatus
    obtain ⟨program, root, hready⟩ := exists_ready_of_status hstatus
    refine ⟨program, root, hready, ?_⟩
    rw [run_of_ready hready] at hstatus
    rcases visited_or_obstacle stores (launch place program) (r.settings root) place
      r.directories with ⟨visits, last, hvisited⟩ |
        ⟨before, dir, after, visits, last, ending, hsplit, hvisited, hobstacle⟩
    · rw [runDirectories_visited hvisited] at hstatus
      exact ⟨visits, last, hvisited, status_ofReports_eq_zero_iff.1 hstatus⟩
    · rw [hsplit, runDirectories_append hvisited, runDirectories_obstacle hobstacle] at hstatus
      have hfailure : ending.status = 0 := hstatus
      rw [hobstacle.status] at hfailure
      cases hfailure
  · rintro ⟨program, root, hready, visits, last, hvisited, hpassed⟩
    rw [run_of_ready hready, runDirectories_visited hvisited]
    exact status_ofReports_eq_zero_iff.2 hpassed

theorem run_of_obstacle (hready : r.Ready place program root) {before after : List String}
    (hsplit : r.directories = before ++ dir :: after)
    (hvisited : Visited (keep place environment r.accepting)
      (launch place program) (r.settings root) place before visits last)
    (hobstacle : Obstacle (r.settings root) last dir ending) :
    r.run launch keep place environment =
      ⟨⟨last.tree, visits.map Visit.report, ending⟩, visits.flatMap Visit.calls⟩ := by
  rw [run_of_ready hready, hsplit, runDirectories_append hvisited,
    runDirectories_obstacle hobstacle]
  simp only [List.nil_append, List.append_nil]

end Request

end CommandLine

namespace Sample

open CommandLine

def launchEcho : Launcher := fun _ _ => .echo

def stylesheets : Workplace := ⟨tree "\x7b\"parsers\":[\"css\"]\x7d", ["work"]⟩

def asking (dirs : List String) : Request := ⟨dirs, ".", "./e", none, false, false, false, false⟩

theorem eq_ok_of_toOption {ε α : Type} {x : Except ε α} {a : α} (h : x.toOption = some a) :
    x = .ok a := by
  cases x with
  | ok value => rw [Option.some.inj h]
  | error error => cases h

theorem ready_asking (dirs : List String) : (asking dirs).Ready stylesheets "./e" "/work" where
  standalone := nofun
  ordinary _ := rfl
  root := eq_ok_of_toOption
    (show (stylesheets.canonical ".").toOption = some "/work" by decide +kernel)

end Sample

namespace CommandLine

open Request

/-- A session succeeds exactly if it has a program and a root, all directories are visited, and no
entry of any visit fails. Where all are visited, the numbers that are reported are the sums over
the visits. Where there is an obstacle, those before it were visited, and nothing else was called.
One of both is the case. -/
theorem session_exit_status (launch : Launcher) (keep : Keeper) (place : Workplace)
    (environment : Environment) (args : List String) {request : Request}
    (hread : read args environment = .ok request) :
    let outcome := session launch keep place environment args
    let stores := keep place environment request.accepting
    (outcome.value.ending.status = 0 ↔ ∃ program root, request.Ready place program root ∧
      ∃ visits last, Visited stores (launch place program) (request.settings root) place
        request.directories visits last ∧ ∀ visit ∈ visits, visit.Passed) ∧
    ∀ program root, request.Ready place program root →
      let engine := launch place program
      let settings := request.settings root
      (∀ visits last, Visited stores engine settings place request.directories visits last →
        outcome = ⟨⟨last.tree, visits.map Visit.report,
          .finished (visits.map fun visit => visit.report.failures.length).sum
            (visits.map fun visit => visit.report.length).sum⟩,
          visits.flatMap Visit.calls⟩) ∧
      (∀ before dir after, request.directories = before ++ dir :: after →
        ∀ visits last, Visited stores engine settings place before visits last →
        ∀ ending, Obstacle settings last dir ending → ending.status = 1 ∧
          outcome = ⟨⟨last.tree, visits.map Visit.report, ending⟩, visits.flatMap Visit.calls⟩) ∧
      ((∃ visits last, Visited stores engine settings place request.directories visits last) ∨
        ∃ before dir after visits last ending, request.directories = before ++ dir :: after ∧
          Visited stores engine settings place before visits last ∧
          Obstacle settings last dir ending) := by
  intro outcome stores
  have houtcome : outcome = request.run launch keep place environment := by
    simp only [outcome, session, hread]
  rw [houtcome]
  refine ⟨run_status_eq_zero_iff .., fun program root hready => ⟨?_, ?_, visited_or_obstacle ..⟩⟩
  · intro visits last hvisited
    rw [run_of_ready hready, runDirectories_visited hvisited, List.nil_append, Session.ofReports,
      List.length_flatMap, List.length_flatten, List.map_map, List.map_map]
    rfl
  · intro before dir after hsplit visits last hvisited ending hobstacle
    exact ⟨hobstacle.status, run_of_obstacle hready hsplit hvisited hobstacle⟩

theorem exit_status_stylesheets :
    let stores := keepSnapshots Sample.stylesheets [] false
    let settings : Settings := (Sample.asking []).settings "/work"
    ((session Sample.launchEcho keepSnapshots Sample.stylesheets []
        ["--engine=./e", "d", "d"]).value.ending.status = 0 ∧
      ∃ visits last, Visited stores .echo settings Sample.stylesheets ["d", "d"] visits last ∧
        ∀ visit ∈ visits, visit.Passed) ∧
    ∃ visits last, Visited stores .echo settings Sample.stylesheets ["d"] visits last ∧
      let outcome := session Sample.launchEcho keepSnapshots Sample.stylesheets []
        ["--engine=./e", "d", "missing"]
      outcome = ⟨⟨last.tree, visits.map Visit.report, .noDirectory .missing⟩,
          visits.flatMap Visit.calls⟩ ∧
        outcome.value.ending.status = 1 ∧ outcome.calls.length = 1 := by
  intro stores settings
  constructor
  · have hread : read ["--engine=./e", "d", "d"] [] = .ok (Sample.asking ["d", "d"]) :=
      Sample.eq_ok_of_toOption (by decide +kernel)
    obtain ⟨hstatus, -⟩ :=
      session_exit_status Sample.launchEcho keepSnapshots Sample.stylesheets [] _ hread
    have hzero : (session Sample.launchEcho keepSnapshots Sample.stylesheets []
      ["--engine=./e", "d", "d"]).value.ending.status = 0 := by decide +kernel
    obtain ⟨program, root, hready, visits, last, hvisited, hpassed⟩ := hstatus.1 hzero
    obtain rfl : "/work" = root :=
      Except.ok.inj ((Sample.ready_asking []).root.symm.trans hready.root)
    exact ⟨hzero, visits, last, hvisited, hpassed⟩
  · have hread : read ["--engine=./e", "d", "missing"] [] = .ok (Sample.asking ["d", "missing"]) :=
      Sample.eq_ok_of_toOption (by decide +kernel)
    obtain ⟨-, hready⟩ :=
      session_exit_status Sample.launchEcho keepSnapshots Sample.stylesheets [] _ hread
    obtain ⟨hcomplete, hstopped, hcourse⟩ := hready "./e" "/work" (Sample.ready_asking _)
    have hending : (session Sample.launchEcho keepSnapshots Sample.stylesheets []
      ["--engine=./e", "d", "missing"]).value.ending = .noDirectory .missing := by decide +kernel
    have hcalls : (session Sample.launchEcho keepSnapshots Sample.stylesheets []
      ["--engine=./e", "d", "missing"]).calls.length = 1 := by decide +kernel
    -- the session is not to be evaluated again
    generalize session Sample.launchEcho keepSnapshots Sample.stylesheets []
      ["--engine=./e", "d", "missing"] = outcome at *
    rcases hcourse with ⟨visits, last, hvisited⟩ |
      ⟨before, dir, after, visits, last, ending, hsplit, hvisited, hobstacle⟩
    · rw [hcomplete visits last hvisited] at hending
      cases hending
    · obtain ⟨-, rfl⟩ := hstopped before dir after hsplit visits last hvisited ending hobstacle
      obtain rfl : ending = .noDirectory .missing := hending
      have hbefore : before = ["d"] := by
        rcases before with _ | ⟨first, _ | ⟨second, others⟩⟩
        · cases hvisited
          cases hcalls
        · obtain rfl : "d" = first := (List.cons.inj hsplit).1
          rfl
        · simp [Sample.asking] at hsplit
      subst hbefore
      exact ⟨visits, last, hvisited, rfl, rfl, hcalls⟩

end CommandLine

end FormatConformance
