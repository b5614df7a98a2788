import FormatConformance.Proofs.Harness.Schedule
import FormatConformance.Proofs.Snapshot.Numbering
import FormatConformance.Snapshot.Directory

/-!
Files of keys. All that the name of a file keeps of a key are its words, the maximal runs of safe
characters, so two keys have one file exactly if they have the same words. Keys of a directory
differ in their numbers or in their titles; their files are the same where the numbers are and the
titles differ only in what stands between the words.
-/

namespace FormatConformance

namespace FileName

def words (t : Text) : List Text := (t.splitOnP fun c => !isSafe c).filter fun w => !w.isEmpty

theorem words_append_cons {c : Char} (h : isSafe c = false) (front back : Text) :
    words (front ++ c :: back) = words front ++ words back := by
  unfold words
  rw [List.splitOnP_append_cons front back (by simp [h]), List.filter_append]

theorem words_cons {c : Char} (h : isSafe c = false) (rest : Text) :
    words (c :: rest) = words rest :=
  words_append_cons h [] rest

def IsWord (w : Text) : Prop := w ≠ [] ∧ ∀ c ∈ w, isSafe c = true

theorem IsWord.words_eq {w : Text} (h : IsWord w) : words w = [w] := by
  unfold words
  rw [List.splitOnP_eq_singleton fun c hc => by simp [h.2 c hc]]
  simp [h.1]

theorem IsWord.words_append_cons {w : Text} (h : IsWord w) {c : Char} (hc : isSafe c = false)
    (rest : Text) : words (w ++ c :: rest) = w :: words rest := by
  rw [FileName.words_append_cons hc, h.words_eq, List.singleton_append]

theorem IsWord.concat {w : Text} (h : IsWord w) {c : Char} (hc : isSafe c = true) :
    IsWord (w ++ [c]) :=
  ⟨by simp, by simpa [or_imp, forall_and] using ⟨h.2, hc⟩⟩

theorem isWord_singleton {c : Char} (hc : isSafe c = true) : IsWord [c] :=
  ⟨List.cons_ne_nil _ _, by simpa using hc⟩

theorem isSafe_underscore : isSafe '_' = false := by decide

theorem isWord_of_mem_words {w t : Text} (h : w ∈ words t) : IsWord w := by
  obtain ⟨hw, hne⟩ := List.mem_filter.1 h
  exact ⟨by simpa using hne, by simpa using Text.eq_false_of_mem_splitOnP hw⟩

def joined (ws : List Text) : Text := ['_'].intercalate ws

theorem joined_singleton (w : Text) : joined [w] = w := List.intercalate_singleton

theorem joined_cons_cons (w v : Text) (ws : List Text) :
    joined (w :: v :: ws) = w ++ '_' :: joined (v :: ws) := rfl

/-- The words of a text, with underscores between them and perhaps behind them. -/
def Spelled (t out : Text) : Prop :=
  ∃ tail, (∀ c ∈ tail, c = '_') ∧ out = joined (words t) ++ tail

theorem Spelled.behind_word {w rest out : Text} {c : Char} (hw : IsWord w)
    (hc : isSafe c = false) (h : Spelled rest out) :
    Spelled (w ++ c :: rest) (w ++ '_' :: out) := by
  obtain ⟨tail, htail, rfl⟩ := h
  unfold Spelled
  rw [hw.words_append_cons hc]
  cases words rest with
  | nil =>
    refine ⟨'_' :: tail, List.forall_mem_cons.2 ⟨rfl, htail⟩, ?_⟩
    rw [joined_singleton]
    rfl
  | cons v ws =>
    refine ⟨tail, htail, ?_⟩
    rw [joined_cons_cons, List.append_assoc, List.cons_append]

theorem reduce_spelled (t : Text) :
    Spelled t (reduce true t) ∧ ∀ w, IsWord w → Spelled (w ++ t) (w ++ reduce false t) := by
  induction t with
  | nil =>
    refine ⟨⟨[], nofun, rfl⟩, fun w hw => ⟨[], nofun, ?_⟩⟩
    show w ++ [] = joined (words (w ++ [])) ++ []
    rw [List.append_nil, List.append_nil, hw.words_eq, joined_singleton]
  | cons c rest ih =>
    obtain ⟨hbehind, hwithin⟩ := ih
    cases hc : isSafe c with
    | true =>
      have hreduce : ∀ after, reduce after (c :: rest) = c :: reduce false rest := by
        intro after
        rw [reduce, if_pos hc]
      rw [hreduce, hreduce]
      refine ⟨hwithin [c] (isWord_singleton hc), fun w hw => ?_⟩
      have hnext := hwithin (w ++ [c]) (hw.concat hc)
      rwa [List.append_assoc, List.append_assoc] at hnext
    | false =>
      have htrue : reduce true (c :: rest) = reduce true rest := by simp [reduce, hc]
      have hfalse : reduce false (c :: rest) = '_' :: reduce true rest := by simp [reduce, hc]
      rw [htrue, hfalse]
      refine ⟨?_, fun w hw => hbehind.behind_word hw hc⟩
      unfold Spelled
      rw [words_cons hc]
      exact hbehind

theorem dropUnderscores_reduce (after : Bool) (t : Text) :
    dropUnderscores (reduce after t) = reduce true t := by
  induction t generalizing after with
  | nil => rfl
  | cons c rest ih =>
    cases hc : isSafe c with
    | true =>
      have hne : c ≠ '_' := by
        rintro rfl
        cases hc
      simp [reduce, hc, dropUnderscores, hne]
    | false =>
      cases after with
      | true => simpa [reduce, hc] using ih true
      | false => simpa [reduce, hc, dropUnderscores] using ih true

theorem exists_last_of_joined {ws : List Text} (hne : ws ≠ []) (h : ∀ w ∈ ws, IsWord w) :
    ∃ front last, joined ws = front ++ [last] ∧ isSafe last = true := by
  induction ws with
  | nil => exact absurd rfl hne
  | cons w rest ih =>
    obtain ⟨hw, hrest⟩ := List.forall_mem_cons.1 h
    cases rest with
    | nil =>
      rcases List.eq_nil_or_concat w with rfl | ⟨front, last, rfl⟩
      · exact absurd rfl hw.1
      · exact ⟨front, last, by simp [joined_singleton], hw.2 last (by simp)⟩
    | cons v ws =>
      obtain ⟨front, last, hjoined, hlast⟩ := ih (List.cons_ne_nil _ _) hrest
      exact ⟨w ++ '_' :: front, last, by simp [joined_cons_cons, hjoined], hlast⟩

theorem dropUnderscores_append {tail : Text} (h : ∀ c ∈ tail, c = '_') (t : Text) :
    dropUnderscores (tail ++ t) = dropUnderscores t :=
  List.dropWhile_append_of_pos fun c hc => by simp [h c hc]

theorem ofKey_eq (key : String) : ofKey key = Text.asString (joined (words key.toList)) := by
  obtain ⟨tail, htail, hreduce⟩ := (reduce_spelled key.toList).1
  have htail' : ∀ c ∈ tail.reverse, c = '_' := fun c hc => htail c (List.mem_reverse.1 hc)
  rw [ofKey, trimUnderscores, dropUnderscores_reduce, hreduce, List.reverse_append,
    dropUnderscores_append htail']
  congr 1
  by_cases hne : words key.toList = []
  · rw [hne]
    rfl
  · obtain ⟨front, last, hjoined, hlast⟩ := exists_last_of_joined hne fun _ => isWord_of_mem_words
    have hkept : last ≠ '_' := by
      rintro rfl
      cases hlast
    rw [hjoined, List.reverse_append]
    simp [dropUnderscores, hkept]

theorem words_joined {ws : List Text} (h : ∀ w ∈ ws, IsWord w) : words (joined ws) = ws := by
  induction ws with
  | nil => rfl
  | cons w rest ih =>
    obtain ⟨hw, hrest⟩ := List.forall_mem_cons.1 h
    cases rest with
    | nil => rw [joined_singleton, hw.words_eq]
    | cons v ws => rw [joined_cons_cons, hw.words_append_cons isSafe_underscore, ih hrest]

theorem ofKey_eq_iff {a b : String} : ofKey a = ofKey b ↔ words a.toList = words b.toList := by
  rw [ofKey_eq, ofKey_eq]
  constructor
  · intro h
    have hwords := congrArg words (Text.asString_injective h)
    rwa [words_joined fun _ => isWord_of_mem_words, words_joined fun _ => isWord_of_mem_words]
      at hwords
  · exact fun h => by rw [h]

end FileName

namespace KeyCounter

open FileName

theorem words_baseKey (fixture entry : String) :
    words (baseKey fixture entry).toList = words fixture.toList ++ words entry.toList := by
  have hlist : (baseKey fixture entry).toList =
      fixture.toList ++ ' ' :: '›' :: ' ' :: entry.toList := by simp [baseKey]
  rw [hlist, words_append_cons (by decide), words_cons (by decide), words_cons (by decide)]

def numberWords (use : Nat) : List Text := if use = 1 then [] else [Nat.toDigits 10 use]

theorem isWord_toDigits (use : Nat) : IsWord (Nat.toDigits 10 use) := by
  refine ⟨Nat.toDigits_ne_nil, fun c hc => ?_⟩
  have hdigit : c.isDigit = true := Nat.isDigit_of_mem_toDigits (by decide) (by decide) hc
  simp [isSafe, Char.isAlphanum, hdigit]

theorem words_numbered (key : String) (use : Nat) :
    words (numbered key use).toList = words key.toList ++ numberWords use := by
  unfold numberWords
  by_cases h : use = 1
  · simp [numbered, h]
  · have hlist : (numbered key use).toList =
        key.toList ++ ' ' :: '#' :: Nat.toDigits 10 use := by simp [numbered, h]
    rw [hlist, words_append_cons (by decide), words_cons (by decide),
      (isWord_toDigits use).words_eq, if_neg h]

def lastWord : Text := "format".toList

theorem exists_words_of_entryTitle {entry : String} (h : EntryTitle entry) :
    ∃ front, words entry.toList = front ++ [lastWord] := by
  have hlast : words lastWord = [lastWord] := by decide
  cases h with
  | primary => exact ⟨[], hlast⟩
  | crossCheck grammar =>
    have hlist : (Plan.crossCheckTitle grammar).toList =
        ('[' :: (Grammar.label grammar).toList) ++ ']' :: ' ' :: lastWord := by
      simp only [Plan.crossCheckTitle, String.toList_append]
      rfl
    have hbehind : words (' ' :: lastWord) = [lastWord] := by decide
    exact ⟨_, by rw [hlist, words_append_cons (by decide), hbehind]⟩

theorem toDigits_ne_lastWord (use : Nat) : Nat.toDigits 10 use ≠ lastWord := by
  intro h
  have hletter : 'f' ∈ Nat.toDigits 10 use := by
    rw [h]
    decide
  have hdigit := Nat.isDigit_of_mem_toDigits (by decide) (by decide) hletter
  cases hdigit

theorem append_numberWords_inj {front front' : List Text} {use use' : Nat}
    (h : front ++ [lastWord] ++ numberWords use = front' ++ [lastWord] ++ numberWords use') :
    front ++ [lastWord] = front' ++ [lastWord] ∧ use = use' := by
  unfold numberWords at h
  split at h <;> split at h
  · rename_i huse huse'
    exact ⟨by simpa using h, huse.trans huse'.symm⟩
  · rw [List.append_nil] at h
    obtain ⟨-, hlast⟩ := List.append_inj' h rfl
    exact absurd (List.singleton_inj.1 hlast).symm (toDigits_ne_lastWord use')
  · rw [List.append_nil] at h
    obtain ⟨-, hlast⟩ := List.append_inj' h rfl
    exact absurd (List.singleton_inj.1 hlast) (toDigits_ne_lastWord use)
  · rename_i huse huse'
    obtain ⟨hfront, hdigits⟩ := List.append_inj' h rfl
    refine ⟨hfront, useDigits_injective ?_⟩
    rw [useDigits, useDigits, if_neg huse, if_neg huse', List.singleton_inj.1 hdigits]

end KeyCounter

theorem SnapshotDirectory.fileName_inj {key key' : String} :
    fileName key = fileName key' ↔ FileName.ofKey key = FileName.ofKey key' := by
  unfold fileName
  rw [String.append_left_inj, String.append_left_inj]

namespace Sample

def twins : FileTree :=
  [(["work", "d"], .directory),
    (["work", "d", "format.spec.json"], .text
      ("\x7b\"parsers\":[\"flow\"],\"snippets\":[\x7b\"name\":\"a b\",\"code\":\"a;\"\x7d," ++
        "\x7b\"name\":\"a_b\",\"code\":\"b;\"\x7d]\x7d"))]

def keysAfterRun : List String :=
  Fields.keys ((Harness.inMemory .echo {} settings).runDirectory twins "d" []).value.2

end Sample

open FileName (words) in
/-- Two keys of a directory are the same exactly if their titles and numbers are, and have one file
exactly if their numbers and the words of their titles are the same. -/
theorem SnapshotDirectory.fileName_eq_iff {entry entry' : String} (h : EntryTitle entry)
    (h' : EntryTitle entry') (fixture fixture' : String) (use use' : Nat) :
    let key := KeyCounter.numbered (KeyCounter.baseKey fixture entry) use
    let key' := KeyCounter.numbered (KeyCounter.baseKey fixture' entry') use'
    (key = key' ↔ (fixture = fixture' ∧ entry = entry') ∧ use = use') ∧
      (fileName key = fileName key' ↔
        words fixture.toList ++ words entry.toList =
          words fixture'.toList ++ words entry'.toList ∧ use = use') := by
  intro key key'
  constructor
  · constructor
    · intro heq
      obtain ⟨hbase, huse⟩ := KeyCounter.numbered_inj
        (KeyCounter.endsPlain_baseKey fixture h.endsPlain)
        (KeyCounter.endsPlain_baseKey fixture' h'.endsPlain) heq
      exact ⟨KeyCounter.baseKey_inj h h' hbase, huse⟩
    · rintro ⟨⟨rfl, rfl⟩, rfl⟩
      rfl
  · obtain ⟨front, hfront⟩ := KeyCounter.exists_words_of_entryTitle h
    obtain ⟨front', hfront'⟩ := KeyCounter.exists_words_of_entryTitle h'
    rw [fileName_inj, FileName.ofKey_eq_iff, KeyCounter.words_numbered, KeyCounter.words_numbered,
      KeyCounter.words_baseKey, KeyCounter.words_baseKey, hfront, hfront', ← List.append_assoc,
      ← List.append_assoc]
    exact ⟨KeyCounter.append_numberWords_inj, fun ⟨hwords, huse⟩ => by rw [hwords, huse]⟩

theorem SnapshotDirectory.fileName_eq_iff_twins :
    EntryTitle Plan.primaryTitle ∧
      let key := KeyCounter.numbered (KeyCounter.baseKey "snippet: a b" Plan.primaryTitle) 1
      let key' := KeyCounter.numbered (KeyCounter.baseKey "snippet: a_b" Plan.primaryTitle) 1
      key ≠ key' ∧ fileName key = fileName key' := by
  refine ⟨.primary, ?_⟩
  obtain ⟨hkey, hfile⟩ :=
    fileName_eq_iff .primary .primary "snippet: a b" "snippet: a_b" 1 1
  exact ⟨fun h => absurd (hkey.1 h).1.1 (by decide), hfile.2 (by decide)⟩

/-- Two entries of one directory may have one file: a run hands their texts over under two keys, and
the two keys have the same words. -/
theorem SnapshotDirectory.runDirectory_keys_share_file :
    Sample.keysAfterRun = ["snippet: a b › format", "snippet: a_b › format"] ∧
      "snippet: a b › format" ≠ "snippet: a_b › format" ∧
      fileName "snippet: a b › format" = fileName "snippet: a_b › format" := by
  decide +kernel

end FormatConformance
