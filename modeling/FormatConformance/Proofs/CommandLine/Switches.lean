import FormatConformance.Proofs.CommandLine.Sessions

/-!
Switches that variables turn on. The command line and the settings each read the value by a rule of
their own. Both take the same words for a no; the command line takes two letters for one as well,
and only the settings look for the word between blanks.
-/

namespace FormatConformance

namespace Text

theorem trimStart_of_no_blank {t : Text} (h : ∀ c ∈ t, isBlank c = false) : trimStart t = t := by
  cases t with
  | nil => rfl
  | cons c rest =>
    have hc := h c List.mem_cons_self
    simp [trimStart, hc]

theorem trim_of_no_blank {t : Text} (h : ∀ c ∈ t, isBlank c = false) : trim t = t := by
  have hreverse : trimStart t.reverse = t.reverse :=
    trimStart_of_no_blank fun c hc => h c (List.mem_reverse.1 hc)
  have hend : trimEnd t = t := by
    rw [trimEnd, ← trimStart, hreverse, List.reverse_reverse]
  rw [trim, trimStart_of_no_blank h, hend]

theorem toLower_of_isBlank {c : Char} (h : isBlank c = true) : c.toLower = c := by
  have hcapital : ¬ (c.val ≥ 'A'.val ∧ c.val ≤ 'Z'.val) := by
    rintro ⟨hlow, hhigh⟩
    have hlow' : 65 ≤ c.toNat := hlow
    have hhigh' : c.toNat ≤ 90 := hhigh
    simp [isBlank] at h
    omega
  exact dif_neg hcapital

end Text

namespace Settings

def noWords : List String := ["", "0", "false", "no", "off"]

def turnedOn (s : Settings) : CommandLine.Switch → Bool
  | .standalone => s.build = .standaloneBuild
  | .deep => s.deep
  | .checkReaders => s.checkReaders
  | .accept => false

theorem isOn_eq_false_iff {value : String} :
    isOn value = false ↔ lowered (Text.trim value.toList) ∈ noWords := by
  simp only [isOn, Bool.not_eq_false', List.contains_iff_mem, noWords]

theorem no_blank_of_lowered {t word : Text} (h : lowered t = Text.asString word)
    (hword : ∀ c ∈ word, Text.isBlank c = false) : ∀ c ∈ t, Text.isBlank c = false := by
  intro c hc
  have hmap : t.map Char.toLower = word := Text.asString_injective h
  have hmem : c.toLower ∈ word := hmap ▸ List.mem_map_of_mem hc
  by_contra hblank
  have hsame := Text.toLower_of_isBlank (Bool.not_eq_false _ ▸ hblank)
  exact hblank (hsame ▸ hword _ hmem)

end Settings

namespace CommandLine

open Settings (noWords lowered isOn)

def noLetters : List String := ["n", "f"]

def Abbreviated (value : String) : Prop := lowered value.toList ∈ noLetters

def Padded (value : String) : Prop :=
  Text.trim value.toList ≠ value.toList ∧ lowered (Text.trim value.toList) ∈ noWords

theorem turnsOn_eq_false_iff {value : String} :
    turnsOn value = false ↔ lowered value.toList ∈ noWords ∨ Abbreviated value := by
  have hperm : ["", "n", "no", "f", "false", "off", "0"].Perm (noWords ++ noLetters) := by decide
  rw [turnsOn, Bool.not_eq_false', List.contains_iff_mem, hperm.mem_iff, List.mem_append]
  rfl

theorem trim_of_turnsOn_eq_false {value : String} (h : turnsOn value = false) :
    Text.trim value.toList = value.toList := by
  have hwords : (noWords ++ noLetters).all fun word => word.toList.all (! Text.isBlank ·) := by
    decide
  have hmem : lowered value.toList ∈ noWords ++ noLetters :=
    List.mem_append.2 (turnsOn_eq_false_iff.1 h)
  have hword := List.all_eq_true.1 (List.all_eq_true.1 hwords _ hmem)
  apply Text.trim_of_no_blank
  apply Settings.no_blank_of_lowered
  · rw [Text.asString, String.ofList_toList]
  · intro c hc
    simpa using hword c hc

theorem turnsOn_and_not_isOn_iff {value : String} :
    turnsOn value = true ∧ isOn value = false ↔ Padded value := by
  rw [Settings.isOn_eq_false_iff]
  constructor
  · rintro ⟨hturns, hword⟩
    refine ⟨fun htrim => ?_, hword⟩
    rw [htrim] at hword
    have hoff := turnsOn_eq_false_iff.2 (.inl hword)
    rw [hturns] at hoff
    cases hoff
  · rintro ⟨htrim, hword⟩
    refine ⟨?_, hword⟩
    by_contra hoff
    exact htrim (trim_of_turnsOn_eq_false (Bool.not_eq_true _ ▸ hoff))

theorem isOn_and_not_turnsOn_iff {value : String} :
    turnsOn value = false ∧ isOn value = true ↔ Abbreviated value := by
  constructor
  · rintro ⟨hoff, hon⟩
    refine (turnsOn_eq_false_iff.1 hoff).resolve_left fun hword => ?_
    rw [← trim_of_turnsOn_eq_false hoff, ← Settings.isOn_eq_false_iff, hon] at hword
    cases hword
  · intro habbreviated
    have hoff := turnsOn_eq_false_iff.2 (.inr habbreviated)
    refine ⟨hoff, ?_⟩
    by_contra hnot
    have hword := Settings.isOn_eq_false_iff.1 (Bool.not_eq_true _ ▸ hnot)
    rw [trim_of_turnsOn_eq_false hoff] at hword
    have hdisjoint : ∀ word ∈ noLetters, word ∉ noWords := by decide
    exact hdisjoint _ habbreviated hword

variable {arguments : Arguments} {environment : Environment} {request : Request}
  {switch : Switch} {name : String}

theorem Request.turnedOn_settings (h : Request.ofArguments arguments environment = .ok request)
    (hname : switch.environmentName? = some name) (root : String) :
    (request.settings root).turnedOn switch = Request.isOn arguments environment switch := by
  unfold Request.ofArguments at h
  split at h
  · cases h
  · cases h
  · cases h
    cases switch with
    | standalone =>
      cases Request.isOn arguments environment .standalone <;>
        simp [Settings.turnedOn, Request.settings]
    | deep => rfl
    | checkReaders => rfl
    | accept => cases hname

theorem Request.isOn_of_notMem (habsent : switch ∉ arguments.switches)
    (hname : switch.environmentName? = some name) :
    Request.isOn arguments environment switch = (environment.lookup name).any turnsOn := by
  simp [Request.isOn, hname, habsent]

theorem Settings.turnedOn_ofEnvironment (hname : switch.environmentName? = some name)
    (root : String) :
    (Settings.ofEnvironment root environment).turnedOn switch =
      (environment.lookup name).any Settings.isOn := by
  cases switch <;> cases hname
  · cases hon : (environment.lookup Settings.standaloneVariable).any Settings.isOn <;>
      simp [Settings.turnedOn, Settings.ofEnvironment, hon]
  · rfl
  · rfl

/-- Without an argument for a switch, the command line and the settings agree on it exactly if the
variable has no value that is padded or abbreviated. A padded one turns on the switch of the command
line alone, and an abbreviated one that of the settings alone. -/
theorem switch_readers_agree_iff {args : List String}
    (hargs : Arguments.read args = .ok arguments)
    (hread : Request.read args environment = .ok request)
    (habsent : switch ∉ arguments.switches) (hname : switch.environmentName? = some name)
    (root : String) :
    let asked := (request.settings root).turnedOn switch
    let set := (Settings.ofEnvironment root environment).turnedOn switch
    (asked = set ↔ ∀ value, environment.lookup name = some value →
      ¬ Padded value ∧ ¬ Abbreviated value) ∧
    (asked = true ∧ set = false ↔ ∃ value, environment.lookup name = some value ∧ Padded value) ∧
    (asked = false ∧ set = true ↔
      ∃ value, environment.lookup name = some value ∧ Abbreviated value) := by
  intro asked set
  have hrequest : Request.ofArguments arguments environment = .ok request := by
    rw [← hread, Request.read, hargs]
    rfl
  have hasked : asked = (environment.lookup name).any turnsOn :=
    (Request.turnedOn_settings hrequest hname root).trans (Request.isOn_of_notMem habsent hname)
  have hset : set = (environment.lookup name).any isOn :=
    Settings.turnedOn_ofEnvironment hname root
  rw [hasked, hset]
  cases environment.lookup name with
  | none => simp
  | some value =>
    simp only [Option.any_some, Option.some.injEq, forall_eq', exists_eq_left']
    refine ⟨?_, turnsOn_and_not_isOn_iff, isOn_and_not_turnsOn_iff⟩
    rw [← turnsOn_and_not_isOn_iff, ← isOn_and_not_turnsOn_iff]
    cases turnsOn value <;> cases isOn value <;> simp

def disputes : Environment :=
  [(Settings.deepVariable, "\tOff "), (Settings.checkReadersVariable, "F"),
    (Settings.standaloneVariable, "No")]

theorem switch_readers_agree_iff_disputes :
    let args := ["--engine=./e", "d"]
    ∃ arguments request, Arguments.read args = .ok arguments ∧
      Request.read args disputes = .ok request ∧ arguments.switches = [] ∧
      let asked := (request.settings "/work").turnedOn
      let set := (Settings.ofEnvironment "/work" disputes).turnedOn
      (asked .deep = true ∧ set .deep = false) ∧
        (asked .checkReaders = false ∧ set .checkReaders = true) ∧
        asked .standalone = set .standalone := by
  intro args
  have hargs : Arguments.read args = .ok { directories := ["d"], values := [(.engine, "./e")] } :=
    Sample.eq_ok_of_toOption (by decide +kernel)
  have hread : Request.read args disputes = .ok { Sample.asking ["d"] with deep := true } :=
    Sample.eq_ok_of_toOption (by decide +kernel)
  have habsent : ∀ switch : Switch, switch ∉ ([] : List Switch) := fun _ => List.not_mem_nil
  refine ⟨_, _, hargs, hread, rfl, ?_, ?_, ?_⟩
  · obtain ⟨-, hpadded, -⟩ :=
      switch_readers_agree_iff hargs hread (habsent .deep) rfl "/work"
    exact hpadded.2 ⟨"\tOff ", by decide, by decide +kernel, by decide +kernel⟩
  · obtain ⟨-, -, habbreviated⟩ :=
      switch_readers_agree_iff hargs hread (habsent .checkReaders) rfl "/work"
    have hvalue : Abbreviated "F" := show lowered "F".toList ∈ noLetters by decide +kernel
    exact habbreviated.2 ⟨"F", by decide, hvalue⟩
  · obtain ⟨hagree, -⟩ :=
      switch_readers_agree_iff hargs hread (habsent .standalone) rfl "/work"
    refine hagree.2 fun value hvalue => ?_
    obtain rfl : "No" = value := Option.some.inj hvalue
    have hword : lowered "No".toList ∉ noLetters := by decide +kernel
    exact ⟨fun hpadded => hpadded.1 (by decide +kernel), hword⟩

/-- A letter for a no leaves the deep checks out of a run of the command line, but not out of one
with the settings of the environment. -/
theorem switch_readers_disagree :
    let environment := [(Settings.deepVariable, "n")]
    ∃ request, Request.read ["--engine=./e", "d"] environment = .ok request ∧
      (request.settings "/work").deep = false ∧
      (Settings.ofEnvironment "/work" environment).deep = true :=
  ⟨Sample.asking ["d"], Sample.eq_ok_of_toOption (by decide +kernel), rfl, by decide +kernel⟩

end CommandLine

end FormatConformance
