import FormatConformance.Harness.Examine

/-!
Engines that agree. Whatever is worked out with an engine depends on its answers to the calls that
are made for it: an engine that answers these calls alike gives the same value by the same calls.
The calls are those of one engine, because the calls of the other one are not known to be the same
before the answers are.
-/

namespace FormatConformance

def Engine.AgreesOn (a b : Engine) (call : Call) : Prop :=
  match call.kind with
  | .format => a.format call.text call.options = b.format call.text call.options
  | .parse => a.parse call.text call.options = b.parse call.text call.options

/-- What an engine is used for is determined by its answers to the calls that are made. -/
def Determined {α : Type} (p : Engine → Logged α) : Prop :=
  ∀ a b : Engine, (∀ call ∈ (p a).calls, a.AgreesOn b call) → p a = p b

namespace Determined

variable {α β : Type} {p : Engine → Logged α}

theorem const (x : Logged α) : Determined fun _ => x := fun _ _ _ => rfl

theorem map (hp : Determined p) (f : α → β) : Determined fun e => (p e).map f := by
  intro a b h
  dsimp only
  rw [hp a b h]

theorem bind {q : Engine → α → Logged β} (hp : Determined p)
    (hq : ∀ v, Determined fun e => q e v) : Determined fun e => p e >>= q e := by
  intro a b h
  have hfirst : p a = p b := by
    apply hp
    intro call hcall
    exact h call (List.mem_append_left _ hcall)
  -- The second program is the same for both because the first one has the same value.
  have hrest : q a (p a).value = q b (p a).value := by
    apply hq
    intro call hcall
    exact h call (List.mem_append_right _ hcall)
  apply Logged.ext
  · rw [Logged.bind_value, Logged.bind_value, hrest, hfirst]
  · rw [Logged.bind_calls, Logged.bind_calls, hrest, hfirst]

theorem gather {ι : Type} {xs : List ι} {q : Engine → ι → Logged (List α)}
    (hq : ∀ i, Determined fun e => q e i) : Determined fun e => Logged.gather (xs.map (q e)) := by
  intro a b h
  have hsame : ∀ i ∈ xs, q a i = q b i := by
    intro i hi
    apply hq
    intro call hcall
    apply h
    simp only [Logged.gather, List.flatMap_map, List.mem_flatMap]
    exact ⟨i, hi, hcall⟩
  dsimp only
  rw [List.map_congr_left hsame]

theorem callFormat (text : Text) (options : Options) :
    Determined fun e => e.callFormat text options := by
  intro a b h
  have hanswer := h ⟨.format, text, options⟩ (List.mem_singleton.2 rfl)
  exact Logged.ext hanswer rfl

theorem callParse (text : Text) (options : Options) :
    Determined fun e => e.callParse text options := by
  intro a b h
  have hanswer := h ⟨.parse, text, options⟩ (List.mem_singleton.2 rfl)
  exact Logged.ext hanswer rfl

theorem passRun (text : Text) (options : Options) :
    Determined fun e => Pass.run e text options :=
  (callFormat _ _).map _

end Determined

namespace Check

variable {α β : Type}

def Determined (c : Engine → Check α) : Prop := FormatConformance.Determined fun e => (c e).run

theorem determined_const (c : Check α) : Determined fun _ => c := .const c.run

theorem Determined.bind {c : Engine → Check α} {f : Engine → α → Check β} (hc : Determined c)
    (hf : ∀ a, Determined fun e => f e a) : Determined fun e => c e >>= f e := by
  refine FormatConformance.Determined.bind hc fun result => ?_
  cases result with
  | ok a => exact hf a
  | error failure => exact .const _

theorem Determined.guard {p : Prop} {decided : Engine → Decidable p} {c d : Engine → Check α}
    (hc : Determined c) (hd : Determined d) :
    Determined fun e => @ite _ p (decided e) (c e) (d e) := by
  by_cases h : p
  · simpa only [if_pos h] using hc
  · simpa only [if_neg h] using hd

theorem Determined.forM {xs : List α} {f : Engine → α → Check Unit}
    (hf : ∀ a, Determined fun e => f e a) : Determined fun e => xs.forM (f e) := by
  induction xs with
  | nil => exact determined_const _
  | cons a rest ih => exact (hf a).bind fun _ => ih

end Check

namespace Subject

open Check

variable (code : Text) (options : Options) (pass : Pass)

theorem determined_format (text : Text) :
    Check.Determined fun e => (Subject.mk e code options pass).format text :=
  (FormatConformance.Determined.passRun text options).map fun answer =>
    answer.mapError (Failure.unexpectedError (Grammar.label options.parser))

theorem determined_parse (text : Text) :
    Check.Determined fun e => (Subject.mk e code options pass).parse text :=
  (FormatConformance.Determined.callParse text options).map fun answer =>
    answer.mapError (Failure.unexpectedError (Grammar.label options.parser))

theorem determined_checkSettled (unstable : Bool) :
    Check.Determined fun e => (Subject.mk e code options pass).checkSettled unstable := by
  unfold checkSettled
  dsimp only
  apply (determined_const _).guard
  apply (determined_format code options pass _).bind
  intro second
  exact determined_const _

theorem determined_checkTree (unstable : Bool) :
    Check.Determined fun e => (Subject.mk e code options pass).checkTree unstable := by
  unfold checkTree
  dsimp only
  apply (determined_const _).guard
  apply (determined_parse code options pass _).bind
  intro before
  apply (determined_parse code options pass _).bind
  intro after
  exact determined_const _

theorem determined_checkEndings :
    Check.Determined fun e => (Subject.mk e code options pass).checkEndings := by
  unfold checkEndings checkEnding
  dsimp only
  apply (determined_const _).guard
  apply Determined.forM
  intro ending
  apply (determined_format code options pass _).bind
  exact fun probed _ _ _ => rfl

theorem determined_checkByteOrderMark :
    Check.Determined fun e => (Subject.mk e code options pass).checkByteOrderMark := by
  unfold checkByteOrderMark
  dsimp only
  apply (determined_const _).guard
  apply (determined_format code options pass _).bind
  intro probed
  exact determined_const _

theorem determined_checkDeeply (unstable treeUnstable : Bool) :
    Check.Determined fun e =>
      (Subject.mk e code options pass).checkDeeply unstable treeUnstable := by
  unfold checkDeeply
  apply (determined_checkSettled code options pass unstable).bind
  intro _
  apply (determined_checkTree code options pass treeUnstable).bind
  intro _
  apply (determined_checkEndings code options pass).bind
  intro _
  exact determined_checkByteOrderMark code options pass

end Subject

namespace Examiner

variable (exceptions : Exceptions) (deep : Bool)

theorem determined_verify (t : Trial) (entry : Entry) (pass : Pass) (expected : Option Text)
    (options : Options) :
    Check.Determined fun e =>
      (Examiner.mk e exceptions deep).verify t entry pass expected options := by
  unfold verify
  apply (Check.determined_const _).bind
  intro _
  cases expected with
  | some text => exact Check.determined_const _
  | none =>
    dsimp only
    apply (Check.determined_const _).guard
    apply (Subject.determined_checkDeeply t.fixture.code options pass _ _).bind
    exact fun _ => Check.determined_const _

theorem determined_checkRejection (t : Trial) (entry : Entry) (options : Options) :
    Determined fun e => (Examiner.mk e exceptions deep).checkRejection t entry options := by
  unfold checkRejection
  apply (Determined.passRun _ _).bind
  intro answer
  exact .const _

theorem determined_checkAgreement (t : Trial) (entry : Entry) (options : Options)
    (expected : Option Text) :
    Determined fun e =>
      (Examiner.mk e exceptions deep).checkAgreement t entry options expected := by
  refine (Determined.passRun _ _).bind fun answer => ?_
  cases answer with
  | error cause => exact .const _
  | ok pass =>
    exact Determined.bind (determined_verify exceptions deep t entry pass expected options)
      fun _ => .const _

theorem determined_crossCheck (t : Trial) (entry : Entry) :
    Determined fun e => (Examiner.mk e exceptions deep).crossCheck t entry := by
  unfold crossCheck
  dsimp only
  split
  · exact determined_checkRejection exceptions deep t entry _
  · cases t.primary with
    | formatted pass => exact determined_checkAgreement exceptions deep t entry _ _
    | expectedFailure => exact determined_checkAgreement exceptions deep t entry _ _
    | failed cause => exact .const _

theorem determined_examineEntry (t : Trial) (entry : Entry) :
    Determined fun e => (Examiner.mk e exceptions deep).examineEntry t entry := by
  unfold examineEntry
  split
  · exact Determined.bind (determined_verify exceptions deep t entry _ _ _) fun _ => .const _
  · exact .const _
  · exact determined_crossCheck exceptions deep t entry

theorem determined_trial (plan : Plan) (fixture : Fixture) :
    Determined fun e => (Examiner.mk e exceptions deep).trial plan fixture := by
  refine Determined.bind ?_ fun _ => .const _
  unfold primaryPass
  split
  · exact .const _
  · exact (Determined.passRun _ _).bind fun _ => .const _

theorem determined_examineFixture (plan : Plan) (fixture : Fixture) :
    Determined fun e => (Examiner.mk e exceptions deep).examineFixture plan fixture := by
  refine (determined_trial exceptions deep plan fixture).bind fun t => ?_
  change Determined fun e => Logged.gather
    ((t.plan.entries t.relative (t.options.expectsFailure t.fixture.name) exceptions).map
      ((Examiner.mk e exceptions deep).examine t))
  apply Determined.gather
  intro entry
  exact (determined_examineEntry exceptions deep t entry).map _

theorem determined_examineRun (run : PreparedRun) :
    Determined fun e => (Examiner.mk e exceptions deep).examineRun run :=
  .gather fun fixture => determined_examineFixture exceptions deep run.plan fixture

end Examiner

end FormatConformance
