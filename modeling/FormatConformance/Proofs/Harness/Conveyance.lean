import FormatConformance.Proofs.Harness.Preparation
import FormatConformance.Proofs.Harness.Verdicts

/-!
What reaches the engine. Each call of a directory run belongs to the pass that the entries of a
fixture share or to one entry. Its options are those that the run declares, but for a print width
where none is declared, the grammar and the path; offsets of markers stand in place of declared ones
where a text is formatted, and in no call that parses.
-/

namespace FormatConformance

namespace Logged

variable {α β : Type} {p : Call → Prop}

def CallsOnly (p : Call → Prop) (x : Logged α) : Prop := ∀ call ∈ x.calls, p call

theorem callsOnly_pure (a : α) : CallsOnly p (pure a : Logged α) := List.forall_mem_nil p

theorem CallsOnly.bind {x : Logged α} {f : α → Logged β} (hx : x.CallsOnly p)
    (hf : (f x.value).CallsOnly p) : (x >>= f).CallsOnly p := by
  intro call hcall
  rw [bind_calls] at hcall
  rcases List.mem_append.1 hcall with hcall | hcall
  · exact hx call hcall
  · exact hf call hcall

end Logged

namespace Check

variable {α β : Type} {p : Call → Prop}

def CallsOnly (p : Call → Prop) (c : Check α) : Prop := c.run.CallsOnly p

theorem callsOnly_pure (a : α) : CallsOnly p (pure a : Check α) := List.forall_mem_nil p

theorem callsOnly_throw (failure : Failure) : CallsOnly p (throw failure : Check α) :=
  List.forall_mem_nil p

theorem callsOnly_require (result : Except Failure Unit) :
    CallsOnly p (Subject.require result) := List.forall_mem_nil p

theorem CallsOnly.bind {c : Check α} {f : α → Check β} (hc : c.CallsOnly p)
    (hf : ∀ a, (f a).CallsOnly p) : (c >>= f).CallsOnly p := by
  unfold CallsOnly
  rw [ExceptT.run_bind]
  refine Logged.CallsOnly.bind hc ?_
  cases c.run.value with
  | ok a => exact hf a
  | error failure => exact Logged.callsOnly_pure _

theorem CallsOnly.forM {xs : List α} {f : α → Check Unit} (h : ∀ a ∈ xs, (f a).CallsOnly p) :
    CallsOnly p (xs.forM f) := by
  induction xs with
  | nil => exact callsOnly_pure ()
  | cons a rest ih =>
    have hrest : CallsOnly p (rest.forM f) := ih fun b hb => h b (List.mem_cons_of_mem a hb)
    exact (h a List.mem_cons_self).bind fun _ => hrest

end Check

def Pass.call (text : Text) (options : Options) : Call :=
  ⟨.format, (Offsets.strip text).1, sent text options⟩

theorem Pass.run_calls (engine : Engine) (text : Text) (options : Options) :
    (run engine text options).calls = [call text options] := rfl

namespace Subject

inductive Asks (s : Subject) : Call → Prop
  | again : s.Asks (Pass.call s.pass.output s.options)
  | before : s.Asks ⟨.parse, s.pass.input, s.options⟩
  | after : s.Asks ⟨.parse, s.pass.output, s.options⟩
  | ending {ending : LineEnding} (probed : ending ∈ LineEnding.probes) :
      s.Asks (Pass.call (LineEnding.substitute ending s.code) s.options)
  | mark : s.Asks (Pass.call (byteOrderMark :: s.code) s.options)

variable (s : Subject)

theorem format_callsOnly {text : Text} (h : s.Asks (Pass.call text s.options)) :
    (s.format text).CallsOnly s.Asks := by
  intro call hcall
  obtain rfl := List.mem_singleton.1 hcall
  exact h

theorem parse_callsOnly {text : Text} (h : s.Asks ⟨.parse, text, s.options⟩) :
    (s.parse text).CallsOnly s.Asks := by
  intro call hcall
  obtain rfl := List.mem_singleton.1 hcall
  exact h

theorem checkSettled_callsOnly (unstable : Bool) :
    (s.checkSettled unstable).CallsOnly s.Asks := by
  unfold checkSettled
  split
  · exact Check.callsOnly_pure ()
  · refine (s.format_callsOnly .again).bind fun second => ?_
    split
    · exact Check.callsOnly_throw _
    · exact Check.callsOnly_throw _
    · exact Check.callsOnly_pure ()

theorem checkTree_callsOnly (unstable : Bool) : (s.checkTree unstable).CallsOnly s.Asks := by
  unfold checkTree
  split
  · exact Check.callsOnly_pure ()
  · refine (s.parse_callsOnly .before).bind fun before => ?_
    refine (s.parse_callsOnly .after).bind fun after => ?_
    split
    · exact Check.callsOnly_throw _
    · exact Check.callsOnly_throw _
    · exact Check.callsOnly_pure ()

theorem checkEndings_callsOnly : s.checkEndings.CallsOnly s.Asks := by
  unfold checkEndings
  split
  · exact Check.callsOnly_pure ()
  · refine Check.CallsOnly.forM fun ending hending => ?_
    exact (s.format_callsOnly (.ending hending)).bind fun probed => Check.callsOnly_require _

theorem checkByteOrderMark_callsOnly : s.checkByteOrderMark.CallsOnly s.Asks := by
  unfold checkByteOrderMark
  split
  · exact Check.callsOnly_pure ()
  · exact (s.format_callsOnly .mark).bind fun probed => Check.callsOnly_require _

theorem checkDeeply_callsOnly (unstable treeUnstable : Bool) :
    (s.checkDeeply unstable treeUnstable).CallsOnly s.Asks := by
  refine (s.checkSettled_callsOnly unstable).bind fun _ => ?_
  refine (s.checkTree_callsOnly treeUnstable).bind fun _ => ?_
  exact s.checkEndings_callsOnly.bind fun _ => s.checkByteOrderMark_callsOnly

end Subject

namespace Examiner

def subject (x : Examiner) (s : Slot) (pass : Pass) : Subject :=
  ⟨x.engine, s.fixture.code, s.optionsUnder s.entry.grammar, pass⟩

inductive Asks (x : Examiner) (s : Slot) : Call → Prop
  | own : x.Asks s (Pass.call s.fixture.code (s.optionsUnder s.entry.grammar))
  | deep {pass : Pass} {call : Call} (formatted : x.attempt s s.entry.grammar = .ok pass)
      (asked : (x.subject s pass).Asks call) : x.Asks s call

variable {x : Examiner} {s : Slot} {primary : Primary}

theorem verify_callsOnly {pass : Pass} (h : x.attempt s s.entry.grammar = .ok pass)
    (expected : Option Text) :
    (x.verify (trialOf s primary) s.entry pass expected
      (s.optionsUnder s.entry.grammar)).CallsOnly (x.Asks s) := by
  unfold verify
  refine (Check.callsOnly_require _).bind fun _ => ?_
  cases expected with
  | some text => exact (Check.callsOnly_require _).bind fun _ => Check.callsOnly_pure _
  | none =>
    dsimp only
    split
    · exact Check.callsOnly_pure _
    · refine Check.CallsOnly.bind (fun call hcall => ?_) fun _ => Check.callsOnly_pure _
      exact .deep h ((x.subject s pass).checkDeeply_callsOnly _ _ call hcall)

theorem run_callsOnly : (Pass.run x.engine s.fixture.code
    (s.optionsUnder s.entry.grammar)).CallsOnly (x.Asks s) := by
  intro call hcall
  rw [Pass.run_calls] at hcall
  obtain rfl := List.mem_singleton.1 hcall
  exact .own

theorem checkRejection_callsOnly :
    (x.checkRejection (trialOf s primary) s.entry
      (s.optionsUnder s.entry.grammar)).CallsOnly (x.Asks s) := by
  refine run_callsOnly.bind ?_
  split
  · exact Logged.callsOnly_pure _
  · exact Logged.callsOnly_pure _

theorem checkAgreement_callsOnly (expected : Option Text) :
    (x.checkAgreement (trialOf s primary) s.entry (s.optionsUnder s.entry.grammar)
      expected).CallsOnly (x.Asks s) := by
  refine run_callsOnly.bind ?_
  split
  · exact Logged.callsOnly_pure _
  · rename_i pass hpass
    exact Logged.CallsOnly.bind (verify_callsOnly hpass expected) (Logged.callsOnly_pure _)

theorem crossCheck_callsOnly :
    (x.crossCheck (trialOf s primary) s.entry).CallsOnly (x.Asks s) := by
  unfold crossCheck
  dsimp only
  split
  · exact checkRejection_callsOnly
  · cases primary with
    | formatted main => exact checkAgreement_callsOnly _
    | expectedFailure => exact checkAgreement_callsOnly _
    | failed cause => exact Logged.callsOnly_pure _

theorem attempt_of_formatted {main : Pass}
    (h : (x.primaryPass s.fixture s.options).value = .formatted main) :
    x.attempt s s.plan.primary = .ok main := by
  cases hexpects : s.expectsFailure s.plan.primary with
  | true =>
    rw [primaryPass_of_expected hexpects] at h
    cases h
  | false =>
    rw [primaryPass_of_not_expected hexpects] at h
    cases hmain : x.attempt s s.plan.primary with
    | ok pass =>
      rw [hmain] at h
      cases h
      rfl
    | error cause =>
      rw [hmain] at h
      cases h

theorem asks_of_mem_callsOf {plan : Plan} {fixture : Fixture}
    (hs : s ∈ plan.slots x.exceptions fixture) {call : Call} (hcall : call ∈ x.callsOf s) :
    x.Asks s call := by
  obtain ⟨hplan, -, -, hrole⟩ := Plan.entry_of_mem_slots hs
  rw [← hplan] at hrole
  revert call
  change Logged.CallsOnly (x.Asks s) (x.examineEntry (x.trial s.plan s.fixture).value s.entry)
  rw [trial_value]
  unfold examineEntry
  split
  · -- the pass is the shared one, and the grammar of the entry is the primary one
    rename_i main hprimary hmain
    have hgrammar : s.entry.grammar = s.plan.primary := (hrole.1 hprimary).1
    have hattempt : x.attempt s s.entry.grammar = .ok main := by
      rw [hgrammar]
      exact attempt_of_formatted hmain
    have hoptions : (trialOf s (x.primaryPass s.fixture s.options).value).options =
        s.optionsUnder s.entry.grammar := by
      rw [hgrammar]
      rfl
    rw [hoptions]
    exact Logged.CallsOnly.bind (verify_callsOnly hattempt _) (Logged.callsOnly_pure _)
  · exact Logged.callsOnly_pure _
  · exact crossCheck_callsOnly

theorem trial_callsOnly (plan : Plan) (fixture : Fixture) :
    (x.trial plan fixture).CallsOnly
      (· = Pass.call fixture.code (plan.optionsFor fixture)) := by
  refine Logged.CallsOnly.bind ?_ (Logged.callsOnly_pure _)
  unfold primaryPass
  split
  · exact Logged.callsOnly_pure _
  · refine Logged.CallsOnly.bind (fun call hcall => List.mem_singleton.1 hcall) ?_
    split
    · exact Logged.callsOnly_pure _
    · exact Logged.callsOnly_pure _

inductive Formats (x : Examiner) (s : Slot) : Text → Prop
  | code : x.Formats s s.fixture.code
  | output {pass : Pass} (formatted : x.attempt s s.entry.grammar = .ok pass) :
      x.Formats s pass.output
  | ending {ending : LineEnding} (probed : ending ∈ LineEnding.probes) :
      x.Formats s (LineEnding.substitute ending s.fixture.code)
  | mark : x.Formats s (byteOrderMark :: s.fixture.code)

inductive Parses (x : Examiner) (s : Slot) : Text → Prop
  | input {pass : Pass} (formatted : x.attempt s s.entry.grammar = .ok pass) : x.Parses s pass.input
  | output {pass : Pass} (formatted : x.attempt s s.entry.grammar = .ok pass) :
      x.Parses s pass.output

end Examiner

namespace Options

/-- Options that are sent for declared ones under a grammar and for a path. -/
structure Conveys (declared sent : Options) (grammar : Option Grammar) (path : Option String) :
    Prop where
  rest : ∀ key, sent.get? key =
    (declared.get? key).or (if key = "printWidth" then some (.int 80) else none)
  parser : sent.parser = grammar
  filepath : sent.filepath = path

variable {declared sent : Options} {grammar : Option Grammar} {path : Option String}

theorem Conveys.withOffsets (h : declared.Conveys sent grammar path) (found : Offsets) :
    declared.Conveys (sent.withOffsets found) grammar path :=
  ⟨h.rest, h.parser, h.filepath⟩

end Options

/-- A call that conveys declared options, with what it formats or parses. Offsets count where a text
is formatted, and those of its markers go first. -/
inductive Call.Conveys (declared : Options) (grammar : Option Grammar) (path : Option String)
    (formatted parsed : Text → Prop) : Call → Prop
  | format {text : Text} {sent : Options} (taken : formatted text)
      (options : declared.Conveys sent grammar path)
      (offsets : ∀ m, sent.offsets.get m =
        ((Offsets.strip text).2.get m).or (declared.offsets.get m)) :
      Conveys declared grammar path formatted parsed ⟨.format, (Offsets.strip text).1, sent⟩
  | parse {text : Text} {sent : Options} (taken : parsed text)
      (options : declared.Conveys sent grammar path)
      (offsets : ∀ m, sent.offsets.get m = declared.offsets.get m) :
      Conveys declared grammar path formatted parsed ⟨.parse, text, sent⟩

namespace Plan

variable {plan : Plan} {declared : Options}

theorem get?_optionsFor (plan : Plan) (fixture : Fixture) (key : String) :
    (plan.optionsFor fixture).get? key =
      (plan.options.get? key).or (if key = "printWidth" then some (.int 80) else none) := by
  cases hwidth : plan.options.get? "printWidth" with
  | some width =>
    have hsized : (plan.optionsFor fixture).get? key = plan.options.get? key := by
      rw [optionsFor, hwidth]
      rfl
    rw [hsized]
    by_cases hkey : key = "printWidth"
    · subst hkey
      simp [hwidth]
    · rw [if_neg hkey, Option.or_none]
  | none =>
    have hsized : (plan.optionsFor fixture).get? key =
        (plan.options.put "printWidth" (.int Options.defaultPrintWidth)).get? key := by
      rw [optionsFor, hwidth]
      rfl
    rw [hsized]
    by_cases hkey : key = "printWidth"
    · subst hkey
      rw [hwidth]
      simp [Options.get?, Options.put, Fields.lookup_insert_self, Options.defaultPrintWidth]
    · simp [hkey, Options.get?, Options.put, Fields.lookup_insert_of_ne _ _ hkey]

theorem offsets_optionsFor (plan : Plan) (fixture : Fixture) :
    (plan.optionsFor fixture).offsets = plan.options.offsets := by
  unfold optionsFor
  cases plan.options.get? "printWidth" <;> rfl

theorem conveys_optionsFor {directory : String} {requested : List Grammar}
    {exceptions : Exceptions} (hplan : plan = build directory requested declared exceptions)
    (fixture : Fixture) (grammar : Option Grammar) :
    declared.Conveys ((plan.optionsFor fixture).withParser grammar) grammar fixture.path ∧
      ((plan.optionsFor fixture).withParser grammar).offsets = declared.offsets := by
  subst hplan
  refine ⟨⟨fun key => ?_, rfl, rfl⟩, offsets_optionsFor _ fixture⟩
  exact get?_optionsFor _ fixture key

end Plan

section Conveying

variable {declared sent : Options} {grammar : Option Grammar} {path : Option String}
  {formatted parsed : Text → Prop} {text : Text}

theorem Pass.call_conveys (h : declared.Conveys sent grammar path)
    (hoffsets : sent.offsets = declared.offsets) (htext : formatted text) :
    Call.Conveys declared grammar path formatted parsed (call text sent) := by
  refine .format htext (h.withOffsets _) fun m => ?_
  rw [Pass.sent, Options.get_offsets_withOffsets, hoffsets]

theorem Examiner.Asks.conveys {x : Examiner} {s : Slot}
    (h : declared.Conveys (s.optionsUnder s.entry.grammar) s.entry.grammar path)
    (hoffsets : (s.optionsUnder s.entry.grammar).offsets = declared.offsets) {call : Call}
    (hcall : x.Asks s call) :
    Call.Conveys declared s.entry.grammar path (x.Formats s) (x.Parses s) call := by
  have hsame : ∀ m, (s.optionsUnder s.entry.grammar).offsets.get m = declared.offsets.get m := by
    intro m
    rw [hoffsets]
  cases hcall with
  | own => exact Pass.call_conveys h hoffsets .code
  | deep hpass hasked =>
    cases hasked with
    | again => exact Pass.call_conveys h hoffsets (.output hpass)
    | before => exact .parse (.input hpass) h hsame
    | after => exact .parse (.output hpass) h hsame
    | ending hprobed => exact Pass.call_conveys h hoffsets (.ending hprobed)
    | mark => exact Pass.call_conveys h hoffsets .mark

end Conveying

namespace Sample

def presumptuousRun : String :=
  "\x7b\"parsers\":[\"flow\",\"meriyah\"],\"options\":\x7b\"parser\":\"css\"," ++
    "\"filepath\":\"b.css\",\"cursorOffset\":7,\"rangeStart\":1,\"semi\":false\x7d\x7d"

theorem exists_presumptuousRun : ∃ declared runs,
    readSpecification (tree presumptuousRun) "d" = .ok declared ∧
      prepareDirectory {} settings (tree presumptuousRun) "d" = .ok runs ∧
      (schedule {} runs).length = 2 := by
  obtain ⟨runs, hruns, hlength⟩ :=
    exists_runs (show hasSlots presumptuousRun 2 = true by decide +kernel)
  obtain ⟨declared, hread, -⟩ := prepareDirectory_eq_ok_iff.1 hruns
  exact ⟨declared, runs, hread, hruns, hlength⟩

end Sample

namespace Harness

/-- The calls of a directory run are, fixture by fixture, the one that the entries share and those
of the entries. Each of them conveys the options that its run declares: the shared one under the
primary grammar, all others under the grammar of their entry. -/
theorem runDirectory_conveys_declared {σ : Type} (h : Harness σ) {tree : FileTree} {dir : String}
    {declared : Specification} {runs : List PreparedRun}
    (hread : readSpecification tree dir = .ok declared)
    (hruns : prepareDirectory h.exceptions h.settings tree dir = .ok runs) (state : σ) :
    let x := h.examiner
    (h.runDirectory tree dir state).calls =
      (runs.flatMap fun run => run.fixtures.flatMap fun fixture =>
        (x.trial run.plan fixture).calls ++
          (run.plan.slots h.exceptions fixture).flatMap x.callsOf) ∧
    List.Forall₂ (fun declaration run => ∀ fixture ∈ run.fixtures,
        (∀ call ∈ (x.trial run.plan fixture).calls,
          Call.Conveys declaration.options run.plan.primary fixture.path (· = fixture.code)
            (fun _ => False) call) ∧
        ∀ slot ∈ run.plan.slots h.exceptions fixture, ∀ call ∈ x.callsOf slot,
          Call.Conveys declaration.options slot.entry.grammar fixture.path (x.Formats slot)
            (x.Parses slot) call)
      declared runs := by
  intro x
  refine ⟨h.runDirectory_calls hruns state, ?_⟩
  refine (forall₂_prepare hread hruns).imp fun declaration run hprepare fixture _ => ?_
  have hplan := plan_of_prepare hprepare
  refine ⟨fun call hcall => ?_, fun slot hslot call hcall => ?_⟩
  · obtain ⟨hconveys, hoffsets⟩ := Plan.conveys_optionsFor hplan fixture run.plan.primary
    obtain rfl := Examiner.trial_callsOnly run.plan fixture call hcall
    exact Pass.call_conveys hconveys hoffsets rfl
  · obtain ⟨hsame, rfl, -, -⟩ := Plan.entry_of_mem_slots hslot
    rw [← hsame] at hplan
    obtain ⟨hconveys, hoffsets⟩ :=
      Plan.conveys_optionsFor hplan slot.fixture slot.entry.grammar
    exact (Examiner.asks_of_mem_callsOf hslot hcall).conveys hconveys hoffsets

theorem conveys_declared_presumptuousRun :
    ∃ declared runs,
      readSpecification (Sample.tree Sample.presumptuousRun) "d" = .ok declared ∧
      prepareDirectory {} Sample.settings (Sample.tree Sample.presumptuousRun) "d" = .ok runs ∧
      (schedule {} runs).length = 2 ∧
      let h := inMemory .echo {} Sample.settings
      let x := h.examiner
      (h.runDirectory (Sample.tree Sample.presumptuousRun) "d" []).calls =
        (runs.flatMap fun run => run.fixtures.flatMap fun fixture =>
          (x.trial run.plan fixture).calls ++ (run.plan.slots {} fixture).flatMap x.callsOf) ∧
      List.Forall₂ (fun declaration run => ∀ fixture ∈ run.fixtures,
          (∀ call ∈ (x.trial run.plan fixture).calls,
            Call.Conveys declaration.options run.plan.primary fixture.path (· = fixture.code)
              (fun _ => False) call) ∧
          ∀ slot ∈ run.plan.slots {} fixture, ∀ call ∈ x.callsOf slot,
            Call.Conveys declaration.options slot.entry.grammar fixture.path (x.Formats slot)
              (x.Parses slot) call)
        declared runs := by
  obtain ⟨declared, runs, hread, hruns, hlength⟩ := Sample.exists_presumptuousRun
  exact ⟨declared, runs, hread, hruns, hlength,
    runDirectory_conveys_declared (inMemory .echo {} Sample.settings) hread hruns []⟩

end Harness

end FormatConformance
