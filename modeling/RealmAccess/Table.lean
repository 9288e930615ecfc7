/-
RealmAccess.Table — finite maps kept in ascending key order.

A table is a list of entries whose keys ascend strictly, so equal lookups
mean equal tables and a listing is always sorted. `insert` walks the list
once and overwrites on an equal key; because of that the two lookup
equations hold without any use of the order, and the order is used only
for listings and for equality.
-/

namespace RealmAccess

universe u v

/-- A finite map from keys to values, its entries in strictly ascending key order. -/
structure Table (κ : Type u) (α : Type v) [Ord κ] where
  /-- The entries, smallest key first. -/
  entries : List (κ × α)
  /-- Every key is below all keys after it. -/
  ascending : entries.Pairwise (fun a b => compare a.1 b.1 = .lt)

namespace Table

variable {κ : Type u} {α : Type v} [Ord κ]

/-! ## Entry lists -/

/-- The value stored under a key in a list of entries. -/
def lookup (k : κ) : List (κ × α) → Option α
  | [] => none
  | (j, v) :: rest =>
    match compare k j with
    | .eq => some v
    | _ => lookup k rest

/-- Put a value under a key, before the first larger key; an equal key is overwritten. -/
def place (k : κ) (v : α) : List (κ × α) → List (κ × α)
  | [] => [(k, v)]
  | (j, w) :: rest =>
    match compare k j with
    | .lt => (k, v) :: (j, w) :: rest
    | .eq => (k, v) :: rest
    | .gt => (j, w) :: place k v rest

/-- A placed entry list holds nothing but the new entry and old ones. -/
theorem mem_place {k : κ} {v : α} {l : List (κ × α)} {e : κ × α} (h : e ∈ place k v l) :
    e = (k, v) ∨ e ∈ l := by
  induction l with
  | nil => simpa [place] using h
  | cons head rest ih =>
    obtain ⟨j, w⟩ := head
    unfold place at h
    split at h
    · simpa using h
    · rcases List.mem_cons.1 h with h | h
      · exact .inl h
      · exact .inr (List.mem_cons_of_mem _ h)
    · rcases List.mem_cons.1 h with h | h
      · exact .inr (h ▸ List.mem_cons_self)
      · exact (ih h).imp_right (List.mem_cons_of_mem _)

/-- Placing keeps the keys ascending. -/
theorem pairwise_place [Std.TransOrd κ] [Std.LawfulEqOrd κ] (k : κ) (v : α) {l : List (κ × α)}
    (h : l.Pairwise (fun a b => compare a.1 b.1 = .lt)) :
    (place k v l).Pairwise (fun a b => compare a.1 b.1 = .lt) := by
  induction l with
  | nil => simp [place]
  | cons head rest ih =>
    obtain ⟨j, w⟩ := head
    obtain ⟨hj, hrest⟩ := List.pairwise_cons.1 h
    unfold place
    split
    · rename_i hlt
      refine List.pairwise_cons.2 ⟨fun e he => ?_, h⟩
      rcases List.mem_cons.1 he with rfl | he
      · exact hlt
      · exact Std.TransCmp.lt_trans hlt (hj e he)
    · rename_i heq
      obtain rfl : k = j := Std.LawfulEqCmp.eq_of_compare heq
      exact List.pairwise_cons.2 ⟨hj, hrest⟩
    · rename_i hgt
      refine List.pairwise_cons.2 ⟨fun e he => ?_, ih hrest⟩
      rcases mem_place he with rfl | he
      · exact Std.OrientedCmp.lt_of_gt hgt
      · exact hj e he

/-! ## Tables -/

/-- The table without entries. -/
def empty : Table κ α := ⟨[], .nil⟩

instance : EmptyCollection (Table κ α) := ⟨empty⟩
instance : Inhabited (Table κ α) := ⟨empty⟩

instance [DecidableEq κ] [DecidableEq α] : DecidableEq (Table κ α) := fun s t =>
  decidable_of_iff (s.entries = t.entries) ⟨fun h => by cases s; cases t; cases h; rfl, fun h => h ▸ rfl⟩

/-- The value stored under a key. -/
def find? (t : Table κ α) (k : κ) : Option α := lookup k t.entries

/-- Whether a key has an entry. -/
def contains (t : Table κ α) (k : κ) : Bool := (t.find? k).isSome

/-- Store a value under a key, replacing what was there. -/
def insert [Std.TransOrd κ] [Std.LawfulEqOrd κ] (t : Table κ α) (k : κ) (v : α) : Table κ α :=
  ⟨place k v t.entries, pairwise_place k v t.ascending⟩

/-- Store under a key a value computed from what was there. -/
def upsert [Std.TransOrd κ] [Std.LawfulEqOrd κ] (t : Table κ α) (k : κ) (f : Option α → α) : Table κ α :=
  t.insert k (f (t.find? k))

/-- Collect entries one by one; of two with one key the later stays. -/
def ofList [Std.TransOrd κ] [Std.LawfulEqOrd κ] (l : List (κ × α)) : Table κ α :=
  l.foldl (fun t e => t.insert e.1 e.2) empty

/-- The keys, ascending. -/
def keys (t : Table κ α) : List κ := t.entries.map Prod.fst

/-- The number of keys. -/
def size (t : Table κ α) : Nat := t.entries.length

/-- Whether there is no entry. -/
def isEmpty (t : Table κ α) : Bool := t.entries.isEmpty

/-! ## What lookups see -/

@[simp] theorem find?_empty (k : κ) : (∅ : Table κ α).find? k = none := rfl

theorem lookup_place_self [Std.ReflOrd κ] (k : κ) (v : α) (l : List (κ × α)) :
    lookup k (place k v l) = some v := by
  induction l with
  | nil => simp [place, lookup, Std.ReflCmp.compare_self]
  | cons head rest ih =>
    obtain ⟨j, w⟩ := head
    unfold place
    split
    · simp [lookup, Std.ReflCmp.compare_self]
    · simp [lookup, Std.ReflCmp.compare_self]
    · rename_i hgt
      simp [lookup, hgt, ih]

theorem lookup_place_ne [Std.LawfulEqOrd κ] {k k' : κ} (h : k' ≠ k) (v : α) (l : List (κ × α)) :
    lookup k' (place k v l) = lookup k' l := by
  have miss : compare k' k ≠ .eq := fun e => h (Std.LawfulEqCmp.eq_of_compare e)
  induction l with
  | nil =>
    simp only [place, lookup]
  | cons head rest ih =>
    obtain ⟨j, w⟩ := head
    unfold place
    split
    · rw [lookup]
      split
      · exact absurd ‹_› miss
      · rfl
    · rename_i heq
      obtain rfl : k = j := Std.LawfulEqCmp.eq_of_compare heq
      simp only [lookup]
    · simp only [lookup, ih]

@[simp] theorem find?_insert_self [Std.TransOrd κ] [Std.LawfulEqOrd κ] (t : Table κ α) (k : κ) (v : α) :
    (t.insert k v).find? k = some v := lookup_place_self k v t.entries

theorem find?_insert_ne [Std.TransOrd κ] [Std.LawfulEqOrd κ] (t : Table κ α) {k k' : κ} (h : k' ≠ k) (v : α) :
    (t.insert k v).find? k' = t.find? k' := lookup_place_ne h v t.entries

@[simp] theorem find?_upsert_self [Std.TransOrd κ] [Std.LawfulEqOrd κ] (t : Table κ α) (k : κ)
    (f : Option α → α) : (t.upsert k f).find? k = some (f (t.find? k)) := find?_insert_self t k _

theorem find?_upsert_ne [Std.TransOrd κ] [Std.LawfulEqOrd κ] (t : Table κ α) {k k' : κ} (h : k' ≠ k)
    (f : Option α → α) : (t.upsert k f).find? k' = t.find? k' := find?_insert_ne t h _

section

variable [Std.TransOrd κ] [Std.LawfulEqOrd κ] [DecidableEq κ]

theorem find?_insert (t : Table κ α) (k k' : κ) (v : α) :
    (t.insert k v).find? k' = if k' = k then some v else t.find? k' := by
  by_cases h : k' = k
  · subst h
    simp
  · rw [if_neg h, find?_insert_ne t h]

theorem find?_upsert (t : Table κ α) (k k' : κ) (f : Option α → α) :
    (t.upsert k f).find? k' = if k' = k then some (f (t.find? k)) else t.find? k' :=
  find?_insert t k k' _

theorem contains_insert (t : Table κ α) (k k' : κ) (v : α) :
    (t.insert k v).contains k' = true ↔ k' = k ∨ t.contains k' = true := by
  unfold contains
  rw [find?_insert]
  by_cases h : k' = k <;> simp [h]

end

/-- What a table of collected entries holds under a key is one of them. -/
theorem mem_of_find?_foldl [Std.TransOrd κ] [Std.LawfulEqOrd κ] [DecidableEq κ] {k : κ} {v : α} :
    ∀ (l : List (κ × α)) (t : Table κ α),
      (l.foldl (fun t e => t.insert e.1 e.2) t).find? k = some v →
        t.find? k = some v ∨ (k, v) ∈ l
  | [], _, h => .inl h
  | (j, w) :: rest, t, h => by
      rw [List.foldl_cons] at h
      obtain h | h := mem_of_find?_foldl rest (t.insert j w) h
      · rw [find?_insert] at h
        split at h
        · rename_i hkey
          rw [Option.some_inj] at h
          exact .inr (by simp [hkey, h])
        · exact .inl h
      · exact .inr (List.mem_cons_of_mem _ h)

theorem mem_of_find?_ofList [Std.TransOrd κ] [Std.LawfulEqOrd κ] [DecidableEq κ]
    {l : List (κ × α)} {k : κ} {v : α} (h : (ofList l).find? k = some v) : (k, v) ∈ l := by
  obtain h | h := mem_of_find?_foldl l empty h
  · cases h
  · exact h

theorem contains_foldl [Std.TransOrd κ] [Std.LawfulEqOrd κ] [DecidableEq κ] {k : κ} :
    ∀ (l : List (κ × α)) (t : Table κ α),
      (l.foldl (fun t e => t.insert e.1 e.2) t).contains k = true ↔
        t.contains k = true ∨ ∃ v, (k, v) ∈ l
  | [], t => by simp
  | (j, w) :: rest, t => by
      rw [List.foldl_cons, contains_foldl rest, contains_insert, or_comm (a := k = j), or_assoc]
      simp only [List.mem_cons, Prod.mk.injEq, exists_or, exists_and_left, exists_eq, and_true]

/-- A table of collected entries has the keys of the entries. -/
theorem contains_ofList [Std.TransOrd κ] [Std.LawfulEqOrd κ] [DecidableEq κ] {l : List (κ × α)}
    {k : κ} : (ofList l).contains k = true ↔ ∃ v, (k, v) ∈ l := by
  have hempty : (empty : Table κ α).contains k = false := rfl
  rw [ofList, contains_foldl, hempty]
  simp

/-- A missing table is looked up like an empty one. -/
theorem find?_getD (t : Option (Table κ α)) (k : κ) : (t.getD ∅).find? k = t.bind (·.find? k) := by
  cases t <;> rfl

theorem contains_getD (t : Option (Table κ α)) (k : κ) :
    (t.getD ∅).contains k = t.any (·.contains k) := by
  cases t <;> rfl

/-! ## Entries and equality -/

theorem mem_of_lookup [Std.LawfulEqOrd κ] {k : κ} {v : α} :
    ∀ {l : List (κ × α)}, lookup k l = some v → (k, v) ∈ l
  | [], h => by cases h
  | (j, w) :: rest, h => by
      unfold lookup at h
      split at h
      · rename_i heq
        rw [Option.some_inj] at h
        rw [Std.LawfulEqCmp.eq_of_compare heq, h]
        exact List.mem_cons_self
      · exact List.mem_cons_of_mem _ (mem_of_lookup h)

theorem ne_of_compare_lt [Std.ReflOrd κ] {j k : κ} (h : compare j k = .lt) : j ≠ k := by
  rintro rfl
  rw [Std.ReflOrd.compare_self] at h
  cases h

theorem nodup_keys [Std.ReflOrd κ] (t : Table κ α) : t.keys.Nodup :=
  List.pairwise_map.mpr (t.ascending.imp ne_of_compare_lt)

/-- A new key takes a new place. -/
theorem length_place {k : κ} (v : α) {l : List (κ × α)} (h : lookup k l = none) :
    (place k v l).length = l.length + 1 := by
  induction l with
  | nil => rfl
  | cons head rest ih =>
    obtain ⟨j, w⟩ := head
    rw [lookup] at h
    rw [place]
    split at h
    · cases h
    · split
      · rfl
      · contradiction
      · rw [List.length_cons, List.length_cons, ih h]

theorem size_insert [Std.TransOrd κ] [Std.LawfulEqOrd κ] {t : Table κ α} {k : κ}
    (h : t.find? k = none) (v : α) : (t.insert k v).size = t.size + 1 := length_place v h

section

variable [Std.TransOrd κ] [Std.LawfulEqOrd κ]

/-- An entry is looked up as itself, since no key before it is the same. -/
theorem lookup_of_mem {k : κ} {v : α} : ∀ {l : List (κ × α)},
    l.Pairwise (fun a b => compare a.1 b.1 = .lt) → (k, v) ∈ l → lookup k l = some v
  | (j, w) :: rest, hl, h => by
      obtain ⟨hj, hrest⟩ := List.pairwise_cons.mp hl
      rcases List.mem_cons.mp h with heq | h
      · cases heq
        simp [lookup, Std.ReflCmp.compare_self]
      · have hgt : compare k j = .gt := Std.OrientedCmp.gt_of_lt (hj (k, v) h)
        simp only [lookup, hgt]
        exact lookup_of_mem hrest h

theorem find?_eq_some {t : Table κ α} {k : κ} {v : α} :
    t.find? k = some v ↔ (k, v) ∈ t.entries :=
  ⟨mem_of_lookup, lookup_of_mem t.ascending⟩

/-- **Tables with equal lookups are equal.** The order of the keys leaves one way to list them. -/
theorem ext_find? {s t : Table κ α} (h : ∀ k, s.find? k = t.find? k) : s = t := by
  have hnodup : ∀ u : Table κ α, u.entries.Nodup := by
    intro u
    refine u.ascending.imp fun hlt heq => ?_
    exact ne_of_compare_lt hlt (congrArg Prod.fst heq)
  have hperm : s.entries.Perm t.entries := by
    rw [List.perm_ext_iff_of_nodup (hnodup s) (hnodup t)]
    rintro ⟨k, v⟩
    rw [← find?_eq_some, ← find?_eq_some, h k]
  have hentries : s.entries = t.entries := by
    refine hperm.eq_of_pairwise ?_ s.ascending t.ascending
    intro _ _ _ _ hlt hgt
    exact absurd hgt (Std.OrientedCmp.not_lt_of_lt hlt)
  cases s
  cases t
  cases hentries
  rfl

/-- The same for tables that may be missing, if they are missing together. -/
theorem ext_bind_find? {s t : Option (Table κ α)} (hsome : s.isSome = t.isSome)
    (h : ∀ k, s.bind (·.find? k) = t.bind (·.find? k)) : s = t := by
  cases s with
  | none =>
    cases t with
    | none => rfl
    | some t => cases hsome
  | some s =>
    cases t with
    | none => cases hsome
    | some t => exact congrArg some (ext_find? h)

/-- The keys are those with an entry. -/
theorem mem_keys {t : Table κ α} {k : κ} : k ∈ t.keys ↔ t.contains k = true := by
  rw [contains, Option.isSome_iff_exists, keys, List.mem_map]
  constructor
  · rintro ⟨⟨j, v⟩, hmem, rfl⟩
    exact ⟨v, find?_eq_some.mpr hmem⟩
  · rintro ⟨v, hv⟩
    exact ⟨(k, v), find?_eq_some.mp hv, rfl⟩

/-- The entries of a table, collected again, are the table. -/
theorem ofList_entries [DecidableEq κ] (t : Table κ α) : ofList t.entries = t := by
  refine ext_find? fun k => ?_
  cases hk : t.find? k with
  | none =>
    cases hof : (ofList t.entries).find? k with
    | none => rfl
    | some v =>
      rw [find?_eq_some.mpr (mem_of_find?_ofList hof)] at hk
      cases hk
  | some v =>
    have hcontains : (ofList t.entries).contains k = true :=
      contains_ofList.mpr ⟨v, find?_eq_some.mp hk⟩
    obtain ⟨w, hw⟩ := Option.isSome_iff_exists.mp hcontains
    rw [hw, ← hk, find?_eq_some.mpr (mem_of_find?_ofList hw)]

end

end Table

end RealmAccess
