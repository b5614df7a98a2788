import FormatConformance.Plan
import FormatConformance.Snapshot.Key

/-!
Keys and their numbers. A number is told apart from what it is appended to because the titles of
entries end in a letter: a numbered key determines the titles it was made of and the use that it
stands for. The counter holds the number of uses so far of each pair of titles.
-/

namespace FormatConformance

/-- Whether a text ends in something else than a digit, so that digits behind it stand out. -/
def EndsPlain (t : Text) : Prop := ∃ front last, t = front ++ [last] ∧ last.isDigit = false

namespace EndsPlain

theorem append_left {t : Text} (h : EndsPlain t) (s : Text) : EndsPlain (s ++ t) := by
  obtain ⟨front, last, rfl, hlast⟩ := h
  exact ⟨s ++ front, last, by simp, hlast⟩

theorem last_not_digit {front : Text} {last : Char} (h : EndsPlain (front ++ [last])) :
    last.isDigit = false := by
  obtain ⟨front', last', heq, hlast⟩ := h
  obtain ⟨-, hl⟩ := List.append_inj' heq rfl
  cases hl
  exact hlast

theorem eq_of_append_digits {xs ys ds es : Text} (hy : EndsPlain ys)
    (hd : ∀ c ∈ ds, c.isDigit = true) {as : Text} (hys : ys = xs ++ as) (hds : ds = as ++ es) :
    xs = ys ∧ ds = es := by
  rcases List.eq_nil_or_concat as with rfl | ⟨as', c, rfl⟩
  · simp [hys, hds]
  · have hplain : c.isDigit = false := by
      rw [hys, List.concat_eq_append, ← List.append_assoc] at hy
      exact hy.last_not_digit
    have hdigit : c.isDigit = true := hd c (by simp [hds])
    rw [hplain] at hdigit
    cases hdigit

theorem append_digits_inj {xs ys ds es : Text} (hx : EndsPlain xs) (hy : EndsPlain ys)
    (hd : ∀ c ∈ ds, c.isDigit = true) (he : ∀ c ∈ es, c.isDigit = true)
    (h : xs ++ ds = ys ++ es) : xs = ys ∧ ds = es := by
  rcases List.append_eq_append_iff.1 h with ⟨as, hys, hds⟩ | ⟨bs, hxs, hes⟩
  · exact eq_of_append_digits hy hd hys hds
  · obtain ⟨hxy, hde⟩ := eq_of_append_digits hx he hxs hes
    exact ⟨hxy.symm, hde.symm⟩

end EndsPlain

namespace KeyCounter

def useDigits (use : Nat) : Text := if use = 1 then [] else Nat.toDigits 10 use

def stem (key : Text) (use : Nat) : Text := if use = 1 then key else key ++ [' ', '#']

theorem toList_numbered (key : String) (use : Nat) :
    (numbered key use).toList = stem key.toList use ++ useDigits use := by
  by_cases h : use = 1 <;> simp [numbered, stem, useDigits, h]

theorem isDigit_of_mem_useDigits {use : Nat} {c : Char} (h : c ∈ useDigits use) :
    c.isDigit = true := by
  unfold useDigits at h
  split at h
  · cases h
  · exact Nat.isDigit_of_mem_toDigits (by decide) (by decide) h

theorem endsPlain_stem {key : Text} (h : EndsPlain key) (use : Nat) : EndsPlain (stem key use) := by
  unfold stem
  split
  · exact h
  · exact ⟨key ++ [' '], '#', by simp, by decide⟩

theorem useDigits_injective {m n : Nat} (h : useDigits m = useDigits n) : m = n := by
  unfold useDigits at h
  split at h <;> split at h
  · omega
  · exact absurd h.symm Nat.toDigits_ne_nil
  · exact absurd h Nat.toDigits_ne_nil
  · have hread := congrArg (fun digits => Nat.ofDigitChars 10 digits 0) h
    simpa using hread

/-- A numbered key determines what was numbered and the number. -/
theorem numbered_inj {a b : String} (ha : EndsPlain a.toList) (hb : EndsPlain b.toList)
    {m n : Nat} (h : numbered a m = numbered b n) : a = b ∧ m = n := by
  have hlist := congrArg String.toList h
  rw [toList_numbered, toList_numbered] at hlist
  obtain ⟨hstem, hdigits⟩ := EndsPlain.append_digits_inj (endsPlain_stem ha m)
    (endsPlain_stem hb n) (fun _ => isDigit_of_mem_useDigits) (fun _ => isDigit_of_mem_useDigits)
    hlist
  obtain rfl := useDigits_injective hdigits
  refine ⟨String.toList_inj.1 ?_, rfl⟩
  unfold stem at hstem
  split at hstem
  · exact hstem
  · exact List.append_cancel_right hstem

def uses (counter : KeyCounter) (key : String) : Nat := (counter.lookup key).getD 0

@[simp] theorem uses_nil (key : String) : uses [] key = 0 := rfl

theorem next_key (counter : KeyCounter) (fixture entry : String) :
    (counter.next fixture entry).1 =
      numbered (baseKey fixture entry) (counter.uses (baseKey fixture entry) + 1) := rfl

theorem uses_next (counter : KeyCounter) (fixture entry key : String) :
    (counter.next fixture entry).2.uses key =
      counter.uses key + if baseKey fixture entry = key then 1 else 0 := by
  by_cases h : baseKey fixture entry = key
  · subst h
    simp [next, uses, Fields.lookup_insert_self]
  · simp [next, uses, Fields.lookup_insert_of_ne _ _ (Ne.symm h), h]

theorem endsPlain_baseKey (fixture : String) {entry : String} (h : EndsPlain entry.toList) :
    EndsPlain (baseKey fixture entry).toList := by
  simpa [baseKey] using h.append_left (fixture.toList ++ " › ".toList)

end KeyCounter

inductive EntryTitle : String → Prop
  | primary : EntryTitle Plan.primaryTitle
  | crossCheck (grammar : Option Grammar) : EntryTitle (Plan.crossCheckTitle grammar)

theorem EntryTitle.endsPlain {title : String} (h : EntryTitle title) : EndsPlain title.toList := by
  cases h with
  | primary => exact ⟨"forma".toList, 't', by simp [Plan.primaryTitle], by decide⟩
  | crossCheck grammar =>
    exact ⟨('[' :: (Grammar.label grammar).toList) ++ "] forma".toList, 't',
      by simp [Plan.crossCheckTitle, String.toList_append], by decide⟩

namespace Plan

variable {plan : Plan} {relative : Option String} {primaryFails : Bool} {exceptions : Exceptions}
  {entry : Entry}

theorem entryTitle_of_mem (h : entry ∈ plan.entries relative primaryFails exceptions) :
    EntryTitle entry.title := by
  simp only [entries, List.mem_map] at h
  obtain ⟨grammar, -, rfl⟩ := h
  split
  · exact .crossCheck grammar
  · exact .primary

theorem endsPlain_title (h : entry ∈ plan.entries relative primaryFails exceptions) :
    EndsPlain entry.title.toList :=
  (entryTitle_of_mem h).endsPlain

end Plan

end FormatConformance
