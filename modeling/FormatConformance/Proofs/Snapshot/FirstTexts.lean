import FormatConformance.Proofs.Json.Fields
import FormatConformance.Proofs.Snapshot.Baselines

/-!
Any number of consultations of baselines in memory. The first text that is handed over under a key
without a baseline stays its baseline, so that all texts are judged by the baselines at the end, and
consultations about different keys do not notice each other.
-/

namespace FormatConformance.Baselines

variable {s : Baselines} {key : String} {cs cs' : List Consultation}

def firstText? (key : String) (cs : List Consultation) : Option Text :=
  (cs.find? fun c => c.key = key).map fun c => c.question.text

theorem firstText?_cons (key : String) (c : Consultation) (cs : List Consultation) :
    firstText? key (c :: cs) = if c.key = key then some c.question.text else firstText? key cs := by
  rw [firstText?, List.find?_cons]
  by_cases h : c.key = key
  · simp [h]
  · simp [h, firstText?]

theorem sorted_seeded (baselines : List (String × Text)) : Fields.Sorted (seeded baselines) :=
  Fields.sorted_ofPairs baselines

theorem sorted_assertMatches (h : Fields.Sorted s) (key : String) (text : Text) :
    Fields.Sorted (assertMatches key text s).2 := by
  cases hkey : s.lookup key with
  | none =>
    rw [assertMatches_of_absent hkey]
    exact h.insert key text
  | some baseline =>
    rw [assertMatches_of_present hkey]
    exact h

theorem askAll_cons (c : Consultation) (cs : List Consultation) (s : Baselines) :
    store.askAll (c :: cs) s = ((assertMatches c.key c.question.text s).1 ::
        (store.askAll cs (assertMatches c.key c.question.text s).2).1,
      (store.askAll cs (assertMatches c.key c.question.text s).2).2) := by
  rw [SnapshotStore.askAll, ask_eq]

theorem askAll_append (front back : List Consultation) (s : Baselines) :
    (store.askAll (front ++ back) s).2 = (store.askAll back (store.askAll front s).2).2 := by
  induction front generalizing s with
  | nil => rfl
  | cons c rest ih => rw [List.cons_append, askAll_cons, askAll_cons, ih]

theorem askAll_concat (front : List Consultation) (c : Consultation) (s : Baselines) :
    (store.askAll (front ++ [c]) s).2 =
      (assertMatches c.key c.question.text (store.askAll front s).2).2 := by
  rw [askAll_append, askAll_cons, SnapshotStore.askAll]

theorem sorted_askAll (h : Fields.Sorted s) (cs : List Consultation) :
    Fields.Sorted (store.askAll cs s).2 := by
  induction cs generalizing s with
  | nil => exact h
  | cons c rest ih =>
    rw [askAll_cons]
    exact ih (sorted_assertMatches h c.key c.question.text)

theorem lookup_askAll (key : String) (cs : List Consultation) (s : Baselines) :
    (store.askAll cs s).2.lookup key = (s.lookup key).or (firstText? key cs) := by
  induction cs generalizing s with
  | nil => simp [SnapshotStore.askAll, firstText?]
  | cons c rest ih =>
    rw [askAll_cons, ih, lookup_assertMatches, firstText?_cons]
    by_cases h : key = c.key
    · subst h
      cases s.lookup c.key <;> simp
    · rw [if_neg h, if_neg (Ne.symm h)]

theorem askAll_results (cs : List Consultation) (s : Baselines) : (store.askAll cs s).1 =
    cs.map fun c => verdict c.key c.question.text ((store.askAll cs s).2.lookup c.key) := by
  induction cs generalizing s with
  | nil => rfl
  | cons c rest ih =>
    have hown : verdict c.key c.question.text (s.lookup c.key) = verdict c.key c.question.text
        ((store.askAll rest (assertMatches c.key c.question.text s).2).2.lookup c.key) := by
      rw [lookup_askAll, lookup_assertMatches, if_pos rfl]
      cases s.lookup c.key <;> simp
    rw [askAll_cons, List.map_cons, assertMatches_fst, hown]
    exact congrArg _ (ih _)

theorem askAll_getElem? (front : List Consultation) (c : Consultation) (back : List Consultation)
    (s : Baselines) : (store.askAll (front ++ c :: back) s).1[front.length]? =
      some (verdict c.key c.question.text
        ((store.askAll (front ++ c :: back) s).2.lookup c.key)) := by
  rw [askAll_results]
  simp

theorem exists_lookup_askAll {c : Consultation} (h : c ∈ cs) (s : Baselines) :
    ∃ baseline, (store.askAll cs s).2.lookup c.key = some baseline := by
  have hfirst : ∃ text, firstText? c.key cs = some text := by
    rw [← Option.isSome_iff_exists, firstText?, Option.isSome_map, List.find?_isSome]
    exact ⟨c, h, by simp⟩
  obtain ⟨text, htext⟩ := hfirst
  rw [lookup_askAll, htext]
  cases s.lookup c.key with
  | none => exact ⟨text, rfl⟩
  | some baseline => exact ⟨baseline, rfl⟩

theorem verdict_askAll_eq_ok_iff {c : Consultation} (h : c ∈ cs) (s : Baselines) :
    verdict c.key c.question.text ((store.askAll cs s).2.lookup c.key) = .ok () ↔
      (store.askAll cs s).2.lookup c.key = some c.question.text := by
  obtain ⟨baseline, hbaseline⟩ := exists_lookup_askAll h s
  rw [verdict_eq_ok_iff, hbaseline]
  simp

theorem firstText?_congr (h : (cs.filter fun c => c.key = key) = cs'.filter fun c => c.key = key) :
    firstText? key cs = firstText? key cs' := by
  rw [firstText?, firstText?, ← List.head?_filter, ← List.head?_filter, h]

/-- Consultations about one key keep their order; others may stand anywhere between them. -/
def Rearranged (cs cs' : List Consultation) : Prop :=
  ∀ key, (cs.filter fun c => c.key = key) = cs'.filter fun c => c.key = key

theorem Rearranged.swap {c d : Consultation} (h : c.key ≠ d.key) (front back : List Consultation) :
    Rearranged (front ++ c :: d :: back) (front ++ d :: c :: back) := by
  intro key
  by_cases hc : c.key = key
  · have hd : d.key ≠ key := fun hd => h (hc.trans hd.symm)
    simp [hc, hd]
  · simp [List.filter_cons, hc]

theorem Rearranged.askAll_eq (h : Rearranged cs cs') (hs : Fields.Sorted s) :
    (store.askAll cs s).2 = (store.askAll cs' s).2 := by
  apply (sorted_askAll hs cs).ext (sorted_askAll hs cs')
  intro key
  rw [lookup_askAll, lookup_askAll, firstText?_congr (h key)]

theorem zip_askAll (cs : List Consultation) (s : Baselines) : cs.zip (store.askAll cs s).1 =
    cs.map fun c => (c, verdict c.key c.question.text
      ((store.askAll cs s).2.lookup c.key)) := by
  rw [askAll_results]
  nth_rewrite 1 [← List.map_id cs]
  exact List.zip_map'

theorem Rearranged.results_eq (h : Rearranged cs cs') (hs : Fields.Sorted s) (key : String) :
    ((cs.zip (store.askAll cs s).1).filter fun asked => asked.1.key = key) =
      (cs'.zip (store.askAll cs' s).1).filter fun asked => asked.1.key = key := by
  rw [zip_askAll, zip_askAll, h.askAll_eq hs, List.filter_map, List.filter_map]
  exact congrArg _ (h key)

/-- The first text of a key is its baseline for ever. -/
theorem first_text_stays (baselines : List (String × Text)) :
    let results := fun cs => (store.askAll cs (seeded baselines)).1
    let after := fun cs => (store.askAll cs (seeded baselines)).2
    (∀ cs key, (after cs).lookup key =
      (baselines.reverse.lookup key).or (firstText? key cs)) ∧
    (∀ front c back,
      (∃ result, (results (front ++ c :: back))[front.length]? = some result ∧
        (result = .ok () ↔
          (after (front ++ c :: back)).lookup c.key = some c.question.text) ∧
        ((after front).lookup c.key = none → result = .ok ()) ∧
        (result ≠ .ok () → after (front ++ [c]) = after front)) ∧
      (∀ key, key ≠ c.key →
        (after (front ++ [c])).lookup key = (after front).lookup key) ∧
      ∀ key baseline, (after front).lookup key = some baseline →
        (after (front ++ c :: back)).lookup key = some baseline) ∧
    ∀ cs cs', Rearranged cs cs' → after cs = after cs' ∧
      ∀ key, ((cs.zip (results cs)).filter fun asked => asked.1.key = key) =
        (cs'.zip (results cs')).filter fun asked => asked.1.key = key := by
  intro results after
  have hafter : ∀ front c back, after (front ++ c :: back) =
      (store.askAll (c :: back) (after front)).2 :=
    fun front c back => askAll_append front (c :: back) _
  have hnew : ∀ front c back, (after front).lookup c.key = none →
      (after (front ++ c :: back)).lookup c.key = some c.question.text := by
    intro front c back hnone
    rw [hafter, lookup_askAll, hnone, firstText?_cons, if_pos rfl, Option.none_or]
  have hok : ∀ front c back, verdict c.key c.question.text
      ((after (front ++ c :: back)).lookup c.key) = .ok () ↔
        (after (front ++ c :: back)).lookup c.key = some c.question.text :=
    fun front c back => verdict_askAll_eq_ok_iff (by simp) _
  refine ⟨fun cs key => ?_, fun front c back => ⟨⟨_, askAll_getElem? front c back _,
    hok front c back, fun hnone => (hok front c back).2 (hnew front c back hnone),
    fun hrefused => ?_⟩, fun key hkey => ?_, fun key baseline hbaseline => ?_⟩,
    fun cs cs' h => ⟨h.askAll_eq (sorted_seeded baselines),
      h.results_eq (sorted_seeded baselines)⟩⟩
  · rw [lookup_askAll, seeded, Fields.lookup_ofPairs]
  · cases hkey : (after front).lookup c.key with
    | none => exact absurd ((hok front c back).2 (hnew front c back hkey)) hrefused
    | some baseline =>
      exact (askAll_concat front c _).trans (congrArg _ (assertMatches_of_present hkey _))
  · rw [show after (front ++ [c]) = _ from askAll_concat front c _, lookup_assertMatches,
      if_neg hkey]
  · rw [hafter, lookup_askAll, hbaseline, Option.some_or]

theorem first_text_stays_refused :
    let baselines := [("a", ['x']), ("a", ['y'])]
    let results := fun cs => (store.askAll cs (seeded baselines)).1
    let after := fun cs => (store.askAll cs (seeded baselines)).2
    let fresh : Consultation := ⟨"b", .message ['m']⟩
    let refused : Consultation := ⟨"a", .record ['x']⟩
    let last : Consultation := ⟨"b", .record ['n']⟩
    (after []).lookup "b" = none ∧
      (results [fresh, refused, last])[0]? = some (.ok ()) ∧
      (∃ result, (results [fresh, refused, last])[1]? = some result ∧ result ≠ .ok ()) ∧
      after [fresh, refused] = after [fresh] ∧
      "b" ≠ refused.key ∧
      (after [fresh, refused]).lookup "b" = (after [fresh]).lookup "b" ∧
      (after [fresh]).lookup "a" = some ['y'] ∧
      (after [fresh, refused, last]).lookup "a" = some ['y'] ∧
      Rearranged [fresh, refused, last] [refused, fresh, last] ∧
      after [fresh, refused, last] = after [refused, fresh, last] := by
  intro baselines results after fresh refused last
  obtain ⟨hbaseline, hstep, hrearranged⟩ := first_text_stays baselines
  have hseeded : (after [fresh]).lookup "a" = some ['y'] := hbaseline [fresh] "a"
  have hnone : (after []).lookup "b" = none := hbaseline [] "b"
  have hne : "b" ≠ refused.key := by decide
  have hswap : Rearranged [fresh, refused, last] [refused, fresh, last] :=
    Rearranged.swap (by decide) [] [last]
  obtain ⟨⟨first, hfirst, -, hok, -⟩, -, -⟩ := hstep [] fresh [refused, last]
  obtain ⟨⟨second, hsecond, hiff, -, hunchanged⟩, hothers, hkept⟩ := hstep [fresh] refused [last]
  have hlater : (after [fresh, refused, last]).lookup "a" = some ['y'] := hkept "a" _ hseeded
  have hrefused : second ≠ .ok () := by
    intro h
    have hequal : some ['y'] = some ['x'] := hlater.symm.trans (hiff.1 h)
    exact absurd hequal (by decide)
  exact ⟨hnone, hok hnone ▸ hfirst, ⟨second, hsecond, hrefused⟩, hunchanged hrefused, hne,
    hothers "b" hne, hseeded, hlater, hswap, (hrearranged _ _ hswap).1⟩

end FormatConformance.Baselines
