/-!
JSON values. An object is a list of fields in the order of their keys, each key once; `Fields`
holds the operations that keep such lists so. Numbers come in two classes, integers and doubles,
and values of different classes are never equal.
-/

namespace FormatConformance

/-- Fields in strictly increasing order of their keys. Strings are ordered by code point. -/
abbrev Fields (α : Type) := List (String × α)

namespace Fields

variable {α β : Type}

def insert (key : String) (value : α) : Fields α → Fields α
  | [] => [(key, value)]
  | (k, v) :: rest =>
    if key < k then (key, value) :: (k, v) :: rest
    else if key = k then (key, value) :: rest
    else (k, v) :: insert key value rest

/-- The fields of a list of pairs, the last pair of a key being the one that counts. -/
def ofPairs (pairs : List (String × α)) : Fields α :=
  pairs.foldl (fun fields (key, value) => insert key value fields) []

def keys (fields : Fields α) : List String := fields.map Prod.fst

def Sorted (fields : Fields α) : Prop := (keys fields).Pairwise (· < ·)

theorem lookup_insert_self (key : String) (value : α) (fields : Fields α) :
    (insert key value fields).lookup key = some value := by
  induction fields with
  | nil => exact List.lookup_cons_self
  | cons field rest ih =>
    obtain ⟨k, v⟩ := field
    rw [insert]
    split
    · exact List.lookup_cons_self
    · split
      · exact List.lookup_cons_self
      · rename_i h
        rw [List.lookup_cons, beq_false_of_ne h, ih]

theorem lookup_insert_of_ne {key other : String} (value : α) (fields : Fields α)
    (h : other ≠ key) : (insert key value fields).lookup other = fields.lookup other := by
  induction fields with
  | nil => simp [insert, h]
  | cons field rest ih =>
    obtain ⟨k, v⟩ := field
    rw [insert]
    split
    · rw [List.lookup_cons, beq_false_of_ne h]
    · split
      · rename_i hk
        simp [List.lookup_cons, beq_false_of_ne h, ← hk]
      · rw [List.lookup_cons, List.lookup_cons, ih]

theorem exists_insert_eq (key : String) (fields : Fields α) :
    ∃ front back, ∀ value, insert key value fields = front ++ (key, value) :: back := by
  induction fields with
  | nil => exact ⟨[], [], fun _ => rfl⟩
  | cons field rest ih =>
    obtain ⟨k, v⟩ := field
    by_cases hlt : key < k
    · exact ⟨[], (k, v) :: rest, fun value => by rw [insert, if_pos hlt]; rfl⟩
    · by_cases heq : key = k
      · exact ⟨[], rest, fun value => by rw [insert, if_neg hlt, if_pos heq]; rfl⟩
      · obtain ⟨front, back, h⟩ := ih
        exact ⟨(k, v) :: front, back, fun value => by
          rw [insert, if_neg hlt, if_neg heq, h, List.cons_append]⟩

theorem mem_keys_insert {key other : String} {value : α} {fields : Fields α} :
    other ∈ keys (insert key value fields) ↔ other = key ∨ other ∈ keys fields := by
  induction fields with
  | nil => simp [insert, keys]
  | cons field rest ih =>
    obtain ⟨k, v⟩ := field
    simp only [keys] at ih ⊢
    rw [insert]
    split
    · simp
    · split
      · rename_i hk
        subst hk
        simp
      · simp only [List.map_cons, List.mem_cons, ih]
        grind

theorem Sorted.insert {fields : Fields α} (h : Sorted fields) (key : String) (value : α) :
    Sorted (insert key value fields) := by
  induction fields with
  | nil => simp [Sorted, keys, Fields.insert]
  | cons field rest ih =>
    obtain ⟨k, v⟩ := field
    have hk : ∀ other ∈ keys rest, k < other := (List.pairwise_cons.1 h).1
    have hrest : Sorted rest := (List.pairwise_cons.1 h).2
    rw [Fields.insert]
    split
    · rename_i hlt
      refine List.pairwise_cons.2 ⟨fun other ho => ?_, h⟩
      rcases List.mem_cons.1 ho with rfl | ho
      · exact hlt
      · exact String.lt_trans hlt (hk other ho)
    · rename_i hnot
      split
      · rename_i heq
        subst heq
        exact List.pairwise_cons.2 ⟨hk, hrest⟩
      · rename_i hne
        refine List.pairwise_cons.2 ⟨fun other ho => ?_, ih hrest⟩
        rcases mem_keys_insert.1 ho with rfl | ho
        · exact String.not_le.1 fun hle => hne (String.le_antisymm (String.not_lt.1 hnot) hle).symm
        · exact hk other ho

theorem sorted_ofPairs (pairs : List (String × α)) : Sorted (ofPairs pairs) := by
  suffices h : ∀ fields : Fields α, Sorted fields → Sorted (pairs.foldl
      (fun fields (key, value) => Fields.insert key value fields) fields) from h [] .nil
  induction pairs with
  | nil => exact fun _ h => h
  | cons pair rest ih => exact fun fields h => ih _ (h.insert _ _)

end Fields

structure Double where
  value : Float
  finite : value.isFinite = true

namespace Double

def ofFloat? (x : Float) : Option Double :=
  if h : x.isFinite = true then some ⟨x, h⟩ else none

def zero (negative : Bool) : Double :=
  ⟨if negative then -0.0 else 0.0, by cases negative <;> decide⟩

/-- Doubles are compared as numbers, so both zeros are equal. -/
instance : BEq Double := ⟨fun x y => x.value == y.value⟩

theorem beq_self_of_finite {x : Float} (h : x.isFinite = true) : (x == x) = true := by
  change x.toModel.unpack.isFinite = true at h
  change (x.toModel.unpack.compare x.toModel.unpack == some .eq) = true
  cases hx : x.toModel.unpack with
  | infinity sign =>
    rw [hx] at h
    cases h
  | notANumber =>
    rw [hx] at h
    cases h
  | zero sign => rfl
  | finite sign mantissa exponent positive =>
    have hequal : (compare exponent exponent).then (compare mantissa mantissa) = .eq := by
      rw [Std.ReflOrd.compare_self, Std.ReflOrd.compare_self]
      rfl
    cases sign with
    | positive =>
      change (some ((compare exponent exponent).then (compare mantissa mantissa)) ==
        some .eq) = true
      rw [hequal]
      rfl
    | negative =>
      change (some ((compare exponent exponent).then (compare mantissa mantissa)).swap ==
        some .eq) = true
      rw [hequal]
      rfl

instance : ReflBEq Double := ⟨fun {x} => beq_self_of_finite x.finite⟩

end Double

inductive Json where
  | null
  | bool (value : Bool)
  | int (value : Int)
  | float (value : Double)
  | string (value : String)
  | array (items : List Json)
  | object (fields : List (String × Json))
  deriving Inhabited

namespace Json

mutual

def beq : Json → Json → Bool
  | null, null => true
  | bool a, bool b => a == b
  | int a, int b => a == b
  | float a, float b => a == b
  | string a, string b => a == b
  | array a, array b => beqItems a b
  | object a, object b => beqFields a b
  | _, _ => false

def beqItems : List Json → List Json → Bool
  | [], [] => true
  | a :: as, b :: bs => beq a b && beqItems as bs
  | _, _ => false

def beqFields : List (String × Json) → List (String × Json) → Bool
  | [], [] => true
  | (k, a) :: as, (l, b) :: bs => k == l && beq a b && beqFields as bs
  | _, _ => false

end

instance : BEq Json := ⟨beq⟩

def string? : Json → Option String
  | string value => some value
  | _ => none

def bool? : Json → Option Bool
  | bool value => some value
  | _ => none

def nat? : Json → Option Nat
  | int value => if 0 ≤ value then some value.toNat else none
  | _ => none

mutual

theorem beq_refl : (value : Json) → beq value value = true
  | null => rfl
  | bool a => beq_self_eq_true a
  | int a => beq_self_eq_true a
  | float x => beq_self_eq_true x
  | string a => beq_self_eq_true a
  | array items => beqItems_refl items
  | object fields => beqFields_refl fields

theorem beqItems_refl : (items : List Json) → beqItems items items = true
  | [] => rfl
  | item :: rest => Bool.and_eq_true_iff.2 ⟨beq_refl item, beqItems_refl rest⟩

theorem beqFields_refl : (fields : List (String × Json)) → beqFields fields fields = true
  | [] => rfl
  | (key, value) :: rest => by
    have hfield : (key == key && beq value value) = true :=
      Bool.and_eq_true_iff.2 ⟨beq_self_eq_true key, beq_refl value⟩
    exact Bool.and_eq_true_iff.2 ⟨hfield, beqFields_refl rest⟩

end

instance : ReflBEq Json := ⟨fun {value} => beq_refl value⟩

end Json

end FormatConformance
