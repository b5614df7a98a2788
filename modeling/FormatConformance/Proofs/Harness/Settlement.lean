import FormatConformance.Harness.Run
import FormatConformance.Proofs.Snapshot.Baselines
import FormatConformance.Proofs.Snapshot.Keys

/-!
Settling examined entries against baselines in memory. No two texts of a run are handed over under
one key, so each entry is judged by what the store held at the start of the run, and the store ends
up with the texts that it did not hold yet. The invariant of the run says so for every prefix of
the entries; it counts the texts that were handed over, not the entries.
-/

namespace FormatConformance

namespace Finding

def question? : Finding → Option Question
  | rejected text => some (.message text)
  | recorded text => some (.record text)
  | passed | failed _ => none

def ownResult : Finding → Except Failure Unit
  | failed failure => .error failure
  | passed | rejected _ | recorded _ => .ok ()

theorem ownResult_of_question?_some {finding : Finding} {question : Question}
    (h : finding.question? = some question) : finding.ownResult = .ok () := by
  cases finding <;> first | rfl | cases h

end Finding

namespace Examiner

namespace Examined

def key (e : Examined) : String := KeyCounter.baseKey e.title e.entry.title

def outcome (e : Examined) (result : Except Failure Unit) : Outcome :=
  ⟨e.title, e.entry.title, e.entry.grammar, result⟩

end Examined

def handed (key : String) (es : List Examined) : List Question :=
  es.filterMap fun e => if e.key = key then e.finding.question? else none

@[simp] theorem handed_nil (key : String) : handed key [] = [] := rfl

theorem handed_append (key : String) (as bs : List Examined) :
    handed key (as ++ bs) = handed key as ++ handed key bs := by
  simp [handed]

theorem handed_singleton (key : String) (e : Examined) :
    handed key [e] = if e.key = key then e.finding.question?.toList else [] := by
  by_cases h : e.key = key
  · cases hq : e.finding.question? <;> simp [handed, h, hq]
  · simp [handed, h]

theorem getElem?_handed {e : Examined} {question : Question}
    (h : e.finding.question? = some question) (front back : List Examined) :
    (handed e.key (front ++ e :: back))[(handed e.key front).length]? = some question := by
  rw [List.append_cons, handed_append, handed_append, handed_singleton]
  simp [h]

/-- The key under which the entry hands its text over when `before` was settled first. -/
def keyAfter (before : List Examined) (e : Examined) : String :=
  KeyCounter.numbered e.key ((handed e.key before).length + 1)

def resultAfter (s : Baselines) (before : List Examined) (e : Examined) : Except Failure Unit :=
  match e.finding.question? with
  | none => e.finding.ownResult
  | some question =>
    (Baselines.verdict (keyAfter before e) question.text (s.lookup (keyAfter before e))).mapError
      .snapshot

def outcomesAfter (s : Baselines) : List Examined → List Examined → Report
  | _, [] => []
  | before, e :: rest =>
    e.outcome (resultAfter s before e) :: outcomesAfter s (before ++ [e]) rest

/-- What settling has come to after `before`: the counter has counted the texts handed over, and
the store holds what it held at first, and else the texts in the order of their numbers. -/
structure Settled (s : Baselines) (before : List Examined) (ledger : Ledger Baselines) : Prop where
  uses : ∀ key, ledger.counter.uses key = (handed key before).length
  held : ∀ key, EndsPlain key.toList → ∀ i,
    ledger.state.lookup (KeyCounter.numbered key (i + 1)) =
      (s.lookup (KeyCounter.numbered key (i + 1))).or
        ((handed key before)[i]?.map Question.text)

theorem Settled.start (s : Baselines) : Settled s [] ⟨[], s⟩ where
  uses key := by simp
  held key _ i := by simp

section Settling

variable {σ : Type} (store : SnapshotStore σ) (ledger : Ledger σ) {e : Examined}

theorem settle_of_question?_none (h : e.finding.question? = none) :
    settle store ledger e = (e.finding.ownResult, ledger) := by
  unfold settle
  cases hf : e.finding with
  | passed => rfl
  | failed failure => rfl
  | rejected text => rw [hf] at h; cases h
  | recorded text => rw [hf] at h; cases h

theorem settle_of_question?_some {question : Question}
    (h : e.finding.question? = some question) :
    settle store ledger e =
      ledger.compare e.title e.entry.title fun key => store.ask key question := by
  unfold settle
  cases hf : e.finding with
  | passed => rw [hf] at h; cases h
  | failed failure => rw [hf] at h; cases h
  | rejected message => rw [hf] at h; cases h; rfl
  | recorded record => rw [hf] at h; cases h; rfl

end Settling

variable {s : Baselines} {before : List Examined} {ledger : Ledger Baselines} {e : Examined}

theorem Settled.next_key (h : Settled s before ledger) (e : Examined) :
    (ledger.counter.next e.title e.entry.title).1 = keyAfter before e := by
  rw [KeyCounter.next_key, h.uses]
  rfl

theorem Settled.lookup_keyAfter (h : Settled s before ledger) (he : EndsPlain e.key.toList) :
    ledger.state.lookup (keyAfter before e) = s.lookup (keyAfter before e) := by
  unfold keyAfter
  rw [h.held e.key he]
  simp

theorem Settled.settle (h : Settled s before ledger) (he : EndsPlain e.key.toList) :
    (Examiner.settle Baselines.store ledger e).1 = resultAfter s before e ∧
      Settled s (before ++ [e]) (Examiner.settle Baselines.store ledger e).2 := by
  cases hq : e.finding.question? with
  | none =>
    have hhanded : ∀ key, handed key (before ++ [e]) = handed key before := by
      intro key
      rw [handed_append, handed_singleton]
      simp [hq]
    rw [settle_of_question?_none _ ledger hq]
    refine ⟨by simp [resultAfter, hq], ⟨fun key => ?_, fun key hkey i => ?_⟩⟩
    · rw [hhanded]
      exact h.uses key
    · rw [hhanded]
      exact h.held key hkey i
  | some question =>
    rw [settle_of_question?_some _ ledger hq]
    simp only [Ledger.compare, h.next_key e, Baselines.ask_eq]
    -- Only the key that is handed out now is written to, and no earlier text had this key: it is
    -- made of the titles and of one more than the number of texts handed over under them.
    refine ⟨?_, ⟨fun key => ?_, fun key hkey i => ?_⟩⟩
    · simp only [resultAfter, hq, Baselines.assertMatches_fst, h.lookup_keyAfter he]
    · rw [KeyCounter.uses_next, h.uses, handed_append, handed_singleton, hq]
      by_cases hk : e.key = key
      · simp [hk, show KeyCounter.baseKey e.title e.entry.title = key from hk]
      · simp [hk, show KeyCounter.baseKey e.title e.entry.title ≠ key from hk]
    · rw [Baselines.lookup_assertMatches, h.lookup_keyAfter he, handed_append, handed_singleton, hq]
      by_cases hi : KeyCounter.numbered key (i + 1) = keyAfter before e
      · obtain ⟨rfl, hn⟩ := KeyCounter.numbered_inj hkey he hi
        obtain rfl : i = (handed e.key before).length := by omega
        rw [if_pos hi, hi]
        cases s.lookup (keyAfter before e) <;> simp
      · rw [if_neg hi, h.held key hkey i]
        by_cases hk : e.key = key
        · have hne : i ≠ (handed key before).length := by
            rintro rfl
            exact hi (by rw [keyAfter, hk])
          simp only [hk, ↓reduceIte, Option.toList_some, List.getElem?_append,
            List.getElem?_singleton]
          split
          · rfl
          · rename_i hge
            rw [List.getElem?_eq_none (by omega), if_neg (by omega)]
        · simp [hk]

theorem Settled.settleAll (h : Settled s before ledger) (es : List Examined)
    (hes : ∀ e ∈ es, EndsPlain e.key.toList) :
    (Examiner.settleAll Baselines.store ledger es).1 = outcomesAfter s before es ∧
      Settled s (before ++ es) (Examiner.settleAll Baselines.store ledger es).2 := by
  induction es generalizing before ledger with
  | nil => exact ⟨rfl, by simpa [Examiner.settleAll] using h⟩
  | cons e rest ih =>
    obtain ⟨hresult, hnext⟩ := h.settle (hes e List.mem_cons_self)
    obtain ⟨hreport, hlast⟩ := ih hnext fun e he => hes e (List.mem_cons_of_mem _ he)
    refine ⟨?_, ?_⟩
    · simp only [Examiner.settleAll, outcomesAfter, hresult, hreport, Examined.outcome]
    · simpa [Examiner.settleAll] using hlast

theorem length_outcomesAfter (s : Baselines) (before es : List Examined) :
    (outcomesAfter s before es).length = es.length := by
  induction es generalizing before with
  | nil => rfl
  | cons e rest ih => simp [outcomesAfter, ih]

theorem outcomesAfter_append (s : Baselines) (before as bs : List Examined) :
    outcomesAfter s before (as ++ bs) =
      outcomesAfter s before as ++ outcomesAfter s (before ++ as) bs := by
  induction as generalizing before with
  | nil => simp [outcomesAfter]
  | cons e rest ih => simp [outcomesAfter, ih]

theorem resultAfter_nil (before : List Examined) (e : Examined) :
    resultAfter [] before e = e.finding.ownResult := by
  unfold resultAfter
  cases hq : e.finding.question? with
  | none => rfl
  | some question =>
    rw [Finding.ownResult_of_question?_some hq]
    rfl

theorem outcomesAfter_nil (before es : List Examined) :
    outcomesAfter [] before es = es.map fun e => e.outcome e.finding.ownResult := by
  induction es generalizing before with
  | nil => rfl
  | cons e rest ih => simp [outcomesAfter, resultAfter_nil, ih]

end Examiner

end FormatConformance
