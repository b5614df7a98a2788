import FormatConformance.Harness.Setup
import FormatConformance.Proofs.Steps

/-! The setup of a directory, taken apart: prepared runs stand for the declared ones in their order,
each with the plan that is built for its declaration. -/

namespace FormatConformance

variable {exceptions : Exceptions} {settings : Settings} {tree : FileTree} {dir : String}

theorem prepareDirectory_eq_ok_iff {runs : List PreparedRun} :
    prepareDirectory exceptions settings tree dir = .ok runs ↔
      ∃ declared, readSpecification tree dir = .ok declared ∧
        List.Forall₂ (fun run prepared => prepare exceptions settings tree dir run = .ok prepared)
          declared runs := by
  unfold prepareDirectory
  rw [bind_eq_ok_iff]
  simp only [mapM_eq_ok_iff]

theorem forall₂_prepare {declared : Specification} {runs : List PreparedRun}
    (hread : readSpecification tree dir = .ok declared)
    (hruns : prepareDirectory exceptions settings tree dir = .ok runs) :
    List.Forall₂ (fun run prepared => prepare exceptions settings tree dir run = .ok prepared)
      declared runs := by
  obtain ⟨declared', hread', hall⟩ := prepareDirectory_eq_ok_iff.1 hruns
  obtain rfl : declared' = declared := Except.ok.inj (hread'.symm.trans hread)
  exact hall

theorem plan_of_prepare {run : Declaration} {prepared : PreparedRun}
    (h : prepare exceptions settings tree dir run = .ok prepared) :
    prepared.plan =
      Plan.build (settings.relative dir) run.parsers run.options exceptions := by
  obtain ⟨fixtures, -, h⟩ := bind_eq_ok_iff.1 h
  split at h
  · obtain ⟨_, -, h⟩ := bind_eq_ok_iff.1 h
    rw [← Except.ok.inj h]
  · rw [← Except.ok.inj h]

theorem exists_declaration {declared : Specification} {runs : List PreparedRun}
    (hread : readSpecification tree dir = .ok declared)
    (hruns : prepareDirectory exceptions settings tree dir = .ok runs) {prepared : PreparedRun}
    (h : prepared ∈ runs) : ∃ run ∈ declared, prepared.plan =
      Plan.build (settings.relative dir) run.parsers run.options exceptions := by
  have hall := mapM_eq_ok_iff.2 (forall₂_prepare hread hruns)
  obtain ⟨run, hrun, hprepare⟩ := (mem_iff_of_mapM hall).1 h
  exact ⟨run, hrun, plan_of_prepare hprepare⟩

end FormatConformance
