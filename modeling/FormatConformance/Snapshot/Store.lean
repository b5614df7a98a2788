import FormatConformance.Check.Failure
import FormatConformance.Diff.Unified

/-!
Stores of baselines. A store keeps one text under each key; `Baselines` is the store that keeps
them in memory, where the first text under a key is the one that later texts have to match.
-/

namespace FormatConformance

/-- A store with states of type `σ`, as what comes of handing it a text under a key. -/
structure SnapshotStore (σ : Type) where
  assertRecord : String → Text → σ → Except SnapshotMismatch Unit × σ
  assertError : String → Text → σ → Except SnapshotMismatch Unit × σ

/-- What a store is asked about: the message of an expected failure or the record of a pass. -/
inductive Question where
  | message (text : Text)
  | record (text : Text)

def Question.text : Question → Text
  | message text | record text => text

structure Consultation where
  key : String
  question : Question

namespace SnapshotStore

variable {σ : Type}

def ask (store : SnapshotStore σ) (key : String) (question : Question) (state : σ) :
    Except SnapshotMismatch Unit × σ :=
  match question with
  | .message text => store.assertError key text state
  | .record text => store.assertRecord key text state

def askAll (store : SnapshotStore σ) :
    List Consultation → σ → List (Except SnapshotMismatch Unit) × σ
  | [], state => ([], state)
  | c :: rest, state =>
    let (result, state) := store.ask c.key c.question state
    let (results, state) := store.askAll rest state
    (result :: results, state)

end SnapshotStore

abbrev Baselines := Fields Text

namespace Baselines

def seeded (baselines : List (String × Text)) : Baselines := Fields.ofPairs baselines

def assertMatches (key : String) (text : Text) (baselines : Baselines) :
    Except SnapshotMismatch Unit × Baselines :=
  match baselines.lookup key with
  | some baseline =>
    match diff baseline text with
    | some difference => (.error ⟨key, some difference⟩, baselines)
    | none => (.ok (), baselines)
  | none => (.ok (), Fields.insert key text baselines)

def store : SnapshotStore Baselines := ⟨assertMatches, assertMatches⟩

end Baselines

end FormatConformance
