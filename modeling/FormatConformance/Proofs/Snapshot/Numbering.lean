import FormatConformance.Proofs.Snapshot.Keys

/-!
Keys handed out one after the other. Whatever a fixture is called, a key determines the titles that
it was made of: the title of an entry is one word, or a bracket and that word. So the number in a
key counts the uses of its titles, and no two uses are given one key.
-/

namespace FormatConformance

section LastPlace

variable {α : Type} {c : α} {as as' bs bs' : List α}

theorem eq_nil_of_cons_eq_append {middle : List α} (h : c ∉ bs)
    (heq : c :: bs = middle ++ c :: bs') : middle = [] := by
  cases middle with
  | nil => rfl
  | cons d rest =>
    obtain ⟨-, rfl⟩ := List.cons.inj heq
    exact absurd (List.mem_append_right _ List.mem_cons_self) h

theorem append_cons_inj_of_last (h : c ∉ bs) (h' : c ∉ bs')
    (heq : as ++ c :: bs = as' ++ c :: bs') : as = as' ∧ bs = bs' := by
  rcases List.append_eq_append_iff.1 heq with ⟨middle, rfl, hmiddle⟩ | ⟨middle, rfl, hmiddle⟩
  · obtain rfl := eq_nil_of_cons_eq_append h hmiddle
    simpa using hmiddle
  · obtain rfl := eq_nil_of_cons_eq_append h' hmiddle
    simpa using hmiddle.symm

theorem append_cons_inj_of_first (h : c ∉ as) (h' : c ∉ as')
    (heq : as ++ c :: bs = as' ++ c :: bs') : as = as' ∧ bs = bs' := by
  have hreverse := congrArg List.reverse heq
  simp only [List.reverse_append, List.reverse_cons, List.append_assoc,
    List.singleton_append] at hreverse
  obtain ⟨hback, hfront⟩ := append_cons_inj_of_last (mt List.mem_reverse.1 h)
    (mt List.mem_reverse.1 h') hreverse
  exact ⟨List.reverse_inj.1 hfront, List.reverse_inj.1 hback⟩

end LastPlace

theorem Grammar.bracket_notMem_label (grammar : Option Grammar) :
    '[' ∉ (label grammar).toList := by
  cases grammar with
  | none => decide
  | some g => cases g <;> decide

namespace KeyCounter

theorem toList_baseKey_primary (fixture : String) :
    (baseKey fixture Plan.primaryTitle).toList =
      (fixture.toList ++ [' ']) ++ "› format".toList := by
  simp [baseKey, Plan.primaryTitle]

theorem toList_baseKey_crossCheck (fixture : String) (grammar : Option Grammar) :
    (baseKey fixture (Plan.crossCheckTitle grammar)).toList =
      ((fixture.toList ++ " › ".toList) ++ '[' :: (Grammar.label grammar).toList) ++
        "] format".toList := by
  simp [baseKey, Plan.crossCheckTitle]

theorem baseKey_primary_ne_crossCheck (fixture fixture' : String) (grammar : Option Grammar) :
    baseKey fixture Plan.primaryTitle ≠ baseKey fixture' (Plan.crossCheckTitle grammar) := by
  intro h
  have hlist := congrArg String.toList h
  rw [toList_baseKey_primary, toList_baseKey_crossCheck] at hlist
  obtain ⟨-, hends⟩ := List.append_inj' hlist rfl
  exact absurd hends (by decide)

theorem baseKey_inj {fixture fixture' entry entry' : String} (h : EntryTitle entry)
    (h' : EntryTitle entry') (heq : baseKey fixture entry = baseKey fixture' entry') :
    fixture = fixture' ∧ entry = entry' := by
  have hlist := congrArg String.toList heq
  cases h with
  | primary =>
    cases h' with
    | primary =>
      rw [toList_baseKey_primary, toList_baseKey_primary] at hlist
      have hfixture := List.append_cancel_right (List.append_cancel_right hlist)
      exact ⟨String.toList_inj.1 hfixture, rfl⟩
    | crossCheck grammar => exact absurd heq (baseKey_primary_ne_crossCheck _ _ _)
  | crossCheck grammar =>
    cases h' with
    | primary => exact absurd heq.symm (baseKey_primary_ne_crossCheck _ _ _)
    | crossCheck grammar' =>
      rw [toList_baseKey_crossCheck, toList_baseKey_crossCheck] at hlist
      obtain ⟨hfixture, hlabel⟩ := append_cons_inj_of_last (Grammar.bracket_notMem_label _)
        (Grammar.bracket_notMem_label _) (List.append_cancel_right hlist)
      rw [Plan.crossCheckTitle, Plan.crossCheckTitle, String.toList_inj.1 hlabel]
      exact ⟨String.toList_inj.1 (List.append_cancel_right hfixture), rfl⟩

def handOut : KeyCounter → List (String × String) → List String
  | _, [] => []
  | counter, (fixture, entry) :: rest =>
    let (key, counter) := counter.next fixture entry
    key :: handOut counter rest

theorem handOut_cons (counter : KeyCounter) (fixture entry : String)
    (rest : List (String × String)) :
    counter.handOut ((fixture, entry) :: rest) =
      (counter.next fixture entry).1 :: (counter.next fixture entry).2.handOut rest := rfl

theorem length_handOut (counter : KeyCounter) (uses : List (String × String)) :
    (counter.handOut uses).length = uses.length := by
  induction uses generalizing counter with
  | nil => rfl
  | cons titles rest ih => rw [handOut_cons, List.length_cons, ih, List.length_cons]

/-- The counter has counted the uses of all titles. -/
def Counts (counter : KeyCounter) (before : List (String × String)) : Prop :=
  ∀ fixture entry, EntryTitle entry →
    counter.uses (baseKey fixture entry) = before.count (fixture, entry)

theorem Counts.start : Counts [] [] := fun _ _ _ => rfl

variable {counter : KeyCounter} {before : List (String × String)} {fixture entry : String}

theorem Counts.next (h : counter.Counts before) (hentry : EntryTitle entry) :
    (counter.next fixture entry).2.Counts (before ++ [(fixture, entry)]) := by
  intro fixture' entry' hentry'
  rw [uses_next, h fixture' entry' hentry', List.count_append]
  by_cases hkey : baseKey fixture entry = baseKey fixture' entry'
  · obtain ⟨rfl, rfl⟩ := baseKey_inj hentry hentry' hkey
    simp
  · have hne : (fixture, entry) ≠ (fixture', entry') := by
      rintro ⟨⟩
      exact hkey rfl
    simp [hkey, hne]

theorem Counts.next_key (h : counter.Counts before) (hentry : EntryTitle entry) :
    (counter.next fixture entry).1 =
      numbered (baseKey fixture entry) (before.count (fixture, entry) + 1) := by
  rw [KeyCounter.next_key, h fixture entry hentry]

variable {uses : List (String × String)}

theorem Counts.getElem?_handOut (h : counter.Counts before) {front back : List (String × String)}
    (huses : ∀ titles ∈ front ++ (fixture, entry) :: back, EntryTitle titles.2) :
    (counter.handOut (front ++ (fixture, entry) :: back))[front.length]? =
      some (numbered (baseKey fixture entry) ((before ++ front).count (fixture, entry) + 1)) := by
  induction front generalizing counter before with
  | nil =>
    have hentry : EntryTitle entry := huses (fixture, entry) List.mem_cons_self
    simp [handOut_cons, h.next_key hentry]
  | cons titles front ih =>
    obtain ⟨fixture', entry'⟩ := titles
    obtain ⟨hhead, hrest⟩ := List.forall_mem_cons.1 huses
    have hnext : (counter.next fixture' entry').2.Counts (before ++ [(fixture', entry')]) :=
      h.next hhead
    have htail := ih hnext hrest
    rw [List.append_assoc, List.singleton_append] at htail
    exact htail

theorem Counts.mem_handOut (h : counter.Counts before)
    (huses : ∀ titles ∈ uses, EntryTitle titles.2) {key : String}
    (hkey : key ∈ counter.handOut uses) :
    ∃ fixture entry use, EntryTitle entry ∧ before.count (fixture, entry) < use ∧
      key = numbered (baseKey fixture entry) use := by
  induction uses generalizing counter before with
  | nil => cases hkey
  | cons titles rest ih =>
    obtain ⟨hhead, hrest⟩ := List.forall_mem_cons.1 huses
    rcases List.mem_cons.1 hkey with rfl | hkey
    · exact ⟨titles.1, titles.2, _, hhead, Nat.lt_succ_self _, h.next_key hhead⟩
    · obtain ⟨fixture, entry, use, hentry, huse, rfl⟩ := ih (h.next hhead) hrest hkey
      rw [List.count_append] at huse
      exact ⟨fixture, entry, use, hentry, by omega, rfl⟩

theorem Counts.nodup_handOut (h : counter.Counts before)
    (huses : ∀ titles ∈ uses, EntryTitle titles.2) : (counter.handOut uses).Nodup := by
  induction uses generalizing counter before with
  | nil => exact List.nodup_nil
  | cons titles rest ih =>
    obtain ⟨fixture, entry⟩ := titles
    obtain ⟨hhead, hrest⟩ := List.forall_mem_cons.1 huses
    rw [handOut_cons, h.next_key hhead]
    refine List.nodup_cons.2 ⟨fun hmem => ?_, ih (h.next hhead) hrest⟩
    -- A later key with the same titles and number would have a number that was reached before.
    obtain ⟨fixture', entry', use, hentry, huse, heq⟩ := (h.next hhead).mem_handOut hrest hmem
    obtain ⟨hbase, rfl⟩ := numbered_inj (endsPlain_baseKey fixture hhead.endsPlain)
      (endsPlain_baseKey fixture' hentry.endsPlain) heq
    obtain ⟨rfl, rfl⟩ := baseKey_inj hhead hentry hbase
    rw [List.count_append, List.count_singleton_self] at huse
    exact Nat.lt_irrefl _ huse

/-- No key is handed out twice, and the key for the first use of two titles is made of the titles
alone, that for the k-th use of the titles and the number k. -/
theorem handOut_nodup_numbered (uses : List (String × String))
    (huses : ∀ titles ∈ uses, EntryTitle titles.2) :
    (handOut [] uses).Nodup ∧ (handOut [] uses).length = uses.length ∧
      ∀ front fixture entry back, uses = front ++ (fixture, entry) :: back →
        let k := front.count (fixture, entry) + 1
        (handOut [] uses)[front.length]? =
          some (if k = 1 then fixture ++ " › " ++ entry
            else fixture ++ " › " ++ entry ++ " #" ++ toString k) := by
  refine ⟨Counts.start.nodup_handOut huses, length_handOut [] uses, ?_⟩
  rintro front fixture entry back rfl k
  exact Counts.start.getElem?_handOut huses

def lookalikes : List (String × String) :=
  [("a.js", Plan.primaryTitle), ("a.js › format #2", Plan.primaryTitle),
    ("a.js", Plan.crossCheckTitle (some .flow)), ("a.js", Plan.primaryTitle)]

theorem handOut_nodup_numbered_lookalikes :
    (∀ titles ∈ lookalikes, EntryTitle titles.2) ∧
      (handOut [] lookalikes).Nodup ∧ (handOut [] lookalikes).length = lookalikes.length ∧
      ∀ front fixture entry back, lookalikes = front ++ (fixture, entry) :: back →
        let k := front.count (fixture, entry) + 1
        (handOut [] lookalikes)[front.length]? =
          some (if k = 1 then fixture ++ " › " ++ entry
            else fixture ++ " › " ++ entry ++ " #" ++ toString k) := by
  have hlookalikes : ∀ titles ∈ lookalikes, EntryTitle titles.2 := by
    simp only [lookalikes, List.forall_mem_cons]
    exact ⟨.primary, .primary, .crossCheck _, .primary, nofun⟩
  exact ⟨hlookalikes, handOut_nodup_numbered lookalikes hlookalikes⟩

end KeyCounter

end FormatConformance
