/-!
# Maps that keep insertion order

A map whose entries are listed in the order in which their keys were first inserted. Storing
under a present key replaces the value and keeps the place.

* `insert`, `erase`, `get?`, `contains` — one key;
* `keys`, `values`, `toList`, `size` — all entries;
* `ofList`, `insertAll` — many insertions, the last of equal keys winning.

What an operation does to a map is told by two views: the value under each key (`get?_insert`,
`get?_erase`) and the keys in order (`keys_insert`, `keys_erase`), which stay distinct.
-/

namespace WebDispatch

/-- Entries in order of first insertion; the operations keep the keys distinct. -/
structure OrderedMap (κ : Type) (α : Type) where
  toList : List (κ × α) := []
deriving Repr, DecidableEq, Inhabited

namespace OrderedMap

variable {κ α β : Type} [DecidableEq κ]

def empty : OrderedMap κ α := ⟨[]⟩

def get? (m : OrderedMap κ α) (k : κ) : Option α :=
  (m.toList.find? fun e => e.1 = k).map (·.2)

def contains (m : OrderedMap κ α) (k : κ) : Bool := m.toList.any fun e => e.1 = k

def insertEntry (k : κ) (v : α) : List (κ × α) → List (κ × α)
  | [] => [(k, v)]
  | e :: rest => if e.1 = k then (k, v) :: rest else e :: insertEntry k v rest

def insert (m : OrderedMap κ α) (k : κ) (v : α) : OrderedMap κ α := ⟨insertEntry k v m.toList⟩

/-- Removes a key; the other entries keep their order. -/
def erase (m : OrderedMap κ α) (k : κ) : OrderedMap κ α :=
  ⟨m.toList.filter fun e => !decide (e.1 = k)⟩

def alter (m : OrderedMap κ α) (k : κ) (absent : α) (f : α → α) : OrderedMap κ α :=
  m.insert k (f ((m.get? k).getD absent))

def keys (m : OrderedMap κ α) : List κ := m.toList.map (·.1)

def values (m : OrderedMap κ α) : List α := m.toList.map (·.2)

def size (m : OrderedMap κ α) : Nat := m.toList.length

def mapValues (m : OrderedMap κ α) (f : α → β) : OrderedMap κ β :=
  ⟨m.toList.map fun e => (e.1, f e.2)⟩

def insertAll (m : OrderedMap κ α) (entries : List (κ × α)) : OrderedMap κ α :=
  entries.foldl (fun m e => m.insert e.1 e.2) m

def ofList (entries : List (κ × α)) : OrderedMap κ α := empty.insertAll entries

@[simp] theorem get?_nil (k : κ) : (⟨[]⟩ : OrderedMap κ α).get? k = none := rfl

theorem mem_keys_iff_contains {m : OrderedMap κ α} {k : κ} :
    k ∈ m.keys ↔ m.contains k = true := by
  simp [keys, contains]

theorem keys_insertEntry (k : κ) (v : α) (entries : List (κ × α)) :
    (insertEntry k v entries).map (·.1) =
      if k ∈ entries.map (·.1) then entries.map (·.1) else entries.map (·.1) ++ [k] := by
  induction entries with
  | nil => rfl
  | cons e rest ih =>
    by_cases h : e.1 = k
    · simp [insertEntry, h]
    · have h' : k ≠ e.1 := fun he => h he.symm
      simp only [insertEntry, if_neg h, List.map_cons, ih, List.mem_cons, h', false_or]
      split <;> rfl

/-- A new key goes behind all others; a present one keeps its place. -/
@[simp] theorem keys_insert (m : OrderedMap κ α) (k : κ) (v : α) :
    (m.insert k v).keys = if k ∈ m.keys then m.keys else m.keys ++ [k] :=
  keys_insertEntry k v m.toList

theorem nodup_keys_insert {m : OrderedMap κ α} (h : m.keys.Nodup) (k : κ) (v : α) :
    (m.insert k v).keys.Nodup := by
  rw [keys_insert]
  split
  · exact h
  · next absent =>
    refine List.nodup_append.2 ⟨h, by simp, ?_⟩
    intro a ha b hb hab
    rw [List.mem_singleton] at hb
    exact absent (hb ▸ hab ▸ ha)

theorem get?_insertEntry (k k' : κ) (v : α) (entries : List (κ × α)) :
    ((insertEntry k v entries).find? fun e => e.1 = k').map (·.2) =
      if k = k' then some v else (entries.find? fun e => e.1 = k').map (·.2) := by
  induction entries with
  | nil => by_cases h : k = k' <;> simp [insertEntry, h]
  | cons e rest ih =>
    by_cases h : e.1 = k
    · by_cases h' : k = k'
      · simp [insertEntry, h, h']
      · have he : ¬e.1 = k' := fun he => h' (h ▸ he)
        simp [insertEntry, h, h']
    · by_cases he : e.1 = k'
      · have h' : ¬k = k' := fun hk => h (he.trans hk.symm)
        rw [insertEntry, if_neg h, if_neg h']
        simp only [List.find?_cons, he, decide_true]
      · simp only [insertEntry, if_neg h, List.find?_cons, he, decide_false, ih]

/-- The value stored last under a key is found there, and every other key keeps its value. -/
@[simp] theorem get?_insert (m : OrderedMap κ α) (k k' : κ) (v : α) :
    (m.insert k v).get? k' = if k = k' then some v else m.get? k' :=
  get?_insertEntry k k' v m.toList

/-- Removing a key takes away its value alone. -/
@[simp] theorem get?_erase (m : OrderedMap κ α) (k k' : κ) :
    (m.erase k).get? k' = if k = k' then none else m.get? k' := by
  rcases m with ⟨entries⟩
  simp only [get?, erase, List.find?_filter]
  by_cases h : k = k'
  · subst h
    simp
  · rw [if_neg h]
    congr 2
    funext e
    by_cases he : e.1 = k'
    · have hk : ¬k' = k := fun hk => h hk.symm
      simp [he, hk]
    · simp [he]

@[simp] theorem keys_erase (m : OrderedMap κ α) (k : κ) :
    (m.erase k).keys = m.keys.filter fun k' => !decide (k' = k) := by
  rcases m with ⟨entries⟩
  simp [keys, erase, List.filter_map, Function.comp_def]

theorem nodup_keys_erase {m : OrderedMap κ α} (h : m.keys.Nodup) (k : κ) :
    (m.erase k).keys.Nodup := by
  rw [keys_erase]
  exact h.sublist List.filter_sublist

theorem nodup_keys_insertAll {m : OrderedMap κ α} (h : m.keys.Nodup) (entries : List (κ × α)) :
    (m.insertAll entries).keys.Nodup := by
  unfold insertAll
  induction entries generalizing m with
  | nil => exact h
  | cons e rest ih => exact ih (nodup_keys_insert h e.1 e.2)

/-- However many entries are stored, each key is listed once. -/
@[simp] theorem nodup_keys_ofList (entries : List (κ × α)) :
    (ofList entries : OrderedMap κ α).keys.Nodup :=
  nodup_keys_insertAll (m := empty) List.nodup_nil entries

@[simp] theorem mem_keys_insertAll (m : OrderedMap κ α) (entries : List (κ × α)) {k : κ} :
    k ∈ (m.insertAll entries).keys ↔ k ∈ m.keys ∨ k ∈ entries.map (·.1) := by
  unfold insertAll
  induction entries generalizing m with
  | nil => simp
  | cons e rest ih =>
      rw [List.foldl_cons, ih, keys_insert, List.map_cons, List.mem_cons, ← or_assoc]
      refine or_congr_left ?_
      split
      · next present =>
          constructor
          · exact Or.inl
          · rintro (hmem | rfl)
            · exact hmem
            · exact present
      · rw [List.mem_append, List.mem_singleton]

/-- Every key under which an entry is stored is listed, and no other. -/
@[simp] theorem mem_keys_ofList {entries : List (κ × α)} {k : κ} :
    k ∈ (ofList entries).keys ↔ k ∈ entries.map (·.1) := by
  rw [ofList, mem_keys_insertAll]
  exact or_iff_right (by simp [keys, empty])

theorem insertEntry_of_notMem {k : κ} {entries : List (κ × α)} (h : k ∉ entries.map (·.1))
    (v : α) : insertEntry k v entries = entries ++ [(k, v)] := by
  induction entries with
  | nil => rfl
  | cons e rest ih =>
      rw [List.map_cons, List.mem_cons, not_or] at h
      rw [insertEntry, if_neg (Ne.symm h.1), ih h.2, List.cons_append]

theorem toList_insertAll (m : OrderedMap κ α) (entries : List (κ × α))
    (h : (m.keys ++ entries.map (·.1)).Nodup) :
    (m.insertAll entries).toList = m.toList ++ entries := by
  induction entries generalizing m with
  | nil => exact (List.append_nil _).symm
  | cons e rest ih =>
      have hnew : e.1 ∉ m.keys := by
        intro hmem
        exact (List.nodup_append.mp h).2.2 e.1 hmem e.1 (by simp) rfl
      have hkeys : (m.insert e.1 e.2).keys = m.keys ++ [e.1] := by
        rw [keys_insert, if_neg hnew]
      have hlist : (m.insert e.1 e.2).toList = m.toList ++ [e] := insertEntry_of_notMem hnew e.2
      have hrest := ih (m.insert e.1 e.2) (by simpa [hkeys] using h)
      rw [hlist, List.append_assoc] at hrest
      exact hrest

/-- Entries under distinct keys are stored as they come. -/
theorem toList_ofList {entries : List (κ × α)} (h : (entries.map (·.1)).Nodup) :
    (ofList entries).toList = entries :=
  toList_insertAll empty entries h

theorem get?_eq_some_iff {m : OrderedMap κ α} (h : m.keys.Nodup) {k : κ} {v : α} :
    m.get? k = some v ↔ (k, v) ∈ m.toList := by
  rcases m with ⟨entries⟩
  simp only [get?, keys] at h ⊢
  induction entries with
  | nil => simp
  | cons e rest ih =>
      rw [List.map_cons, List.nodup_cons] at h
      by_cases hk : e.1 = k
      · have absent : (k, v) ∉ rest := by
          intro hmem
          exact h.1 (hk ▸ List.mem_map.mpr ⟨(k, v), hmem, rfl⟩)
        simp only [List.find?_cons, hk, decide_true, Option.map_some, Option.some.injEq,
          List.mem_cons, absent, or_false]
        constructor
        · rintro rfl
          exact Prod.ext hk.symm rfl
        · intro he
          rw [← he]
      · have hne : (k, v) ≠ e := fun he => hk (he ▸ rfl)
        simp only [List.find?_cons, hk, decide_false, List.mem_cons, hne, false_or]
        exact ih h.2

/-- A key is listed exactly when something is stored under it. -/
@[simp] theorem isSome_get?_iff {m : OrderedMap κ α} {k : κ} : (m.get? k).isSome ↔ k ∈ m.keys := by
  simp [get?, keys]

/-- The entries of another map stand before those that were there. -/
theorem get?_insertAll_toList (m : OrderedMap κ α) {n : OrderedMap κ α} (h : n.keys.Nodup)
    (k : κ) : (m.insertAll n.toList).get? k = (n.get? k).or (m.get? k) := by
  rcases n with ⟨entries⟩
  induction entries generalizing m with
  | nil => rfl
  | cons e rest ih =>
      obtain ⟨hnew, hrest⟩ := List.nodup_cons.mp h
      have hstep : (⟨e :: rest⟩ : OrderedMap κ α).get? k =
          if e.1 = k then some e.2 else (⟨rest⟩ : OrderedMap κ α).get? k := by
        by_cases hk : e.1 = k <;> simp [get?, hk]
      rw [hstep]
      change ((m.insert e.1 e.2).insertAll rest).get? k = _
      rw [ih (m.insert e.1 e.2) hrest, get?_insert]
      by_cases hk : e.1 = k
      · subst hk
        have hnone : (⟨rest⟩ : OrderedMap κ α).get? e.1 = none := by
          rw [← Option.not_isSome_iff_eq_none, isSome_get?_iff]
          exact hnew
        simp [hnone]
      · simp [hk]

theorem mem_of_get?_insertAll (m : OrderedMap κ α) {entries : List (κ × α)} {k : κ} {v : α}
    (h : (m.insertAll entries).get? k = some v) : m.get? k = some v ∨ (k, v) ∈ entries := by
  unfold insertAll at h
  induction entries generalizing m with
  | nil => exact Or.inl h
  | cons e rest ih =>
      rcases ih _ h with hget | hmem
      · rw [get?_insert] at hget
        split at hget
        · next hk =>
            obtain rfl := Option.some.inj hget
            exact Or.inr (hk ▸ List.mem_cons_self)
        · exact Or.inl hget
      · exact Or.inr (List.mem_cons_of_mem e hmem)

/-- What is found under a key was stored under it. -/
theorem mem_of_get?_ofList {entries : List (κ × α)} {k : κ} {v : α}
    (h : (ofList entries).get? k = some v) : (k, v) ∈ entries :=
  (mem_of_get?_insertAll empty h).resolve_left (by simp [empty])

omit [DecidableEq κ] in
@[simp] theorem keys_mapValues (m : OrderedMap κ α) (f : α → β) :
    (m.mapValues f).keys = m.keys := by
  simp [keys, mapValues, Function.comp_def]

@[simp] theorem get?_mapValues (m : OrderedMap κ α) (f : α → β) (k : κ) :
    (m.mapValues f).get? k = (m.get? k).map f := by
  simp [get?, mapValues, List.find?_map, Function.comp_def]

@[simp] theorem get?_alter (m : OrderedMap κ α) (k k' : κ) (absent : α) (f : α → α) :
    (m.alter k absent f).get? k' =
      if k = k' then some (f ((m.get? k).getD absent)) else m.get? k' :=
  get?_insert m k k' _

theorem nodup_keys_alter {m : OrderedMap κ α} (h : m.keys.Nodup) (k : κ) (absent : α)
    (f : α → α) : (m.alter k absent f).keys.Nodup :=
  nodup_keys_insert h k _

theorem toList_insert_ne_nil (m : OrderedMap κ α) (k : κ) (v : α) :
    (m.insert k v).toList ≠ [] := by
  intro h
  have hkeys : k ∈ (m.insert k v).keys := by
    rw [← isSome_get?_iff, get?_insert, if_pos rfl]
    rfl
  simp [keys, h] at hkeys

end OrderedMap

end WebDispatch
