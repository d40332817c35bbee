/-!
# Association lists in order of insertion

Lists of keys with values that are read with `List.lookup`. A key that is put again keeps its place.

* `lookup_put_self`, `lookup_put_of_ne`: what setting a value does to the view.
* `lookup_putNew`: what adding a key does to the view.
* `lookup_foldl_put`: of values that are set one after the other the last counts.
* `lookup_eq_some_iff_mem`, `lookup_perm`: the order of distinct keys is of no account.
* `eq_of_lookup`: a list with distinct keys is known by these and by what is found.
-/

namespace UnitConversion.Association

variable {κ : Type u} {ν : Type v}

theorem not_mem_of_nodup {before rest : List (κ × ν)} {entry : κ × ν}
    (h : ((before ++ entry :: rest).map Prod.fst).Nodup) : entry.1 ∉ before.map Prod.fst := by
  rw [List.map_append, List.map_cons] at h
  intro hMem
  exact (List.nodup_append.mp h).2.2 entry.1 hMem entry.1 List.mem_cons_self rfl

variable [BEq κ] [LawfulBEq κ]

/-- Sets the value of a key, in its place if it is there and at the end if not. -/
def put (entries : List (κ × ν)) (key : κ) (value : ν) : List (κ × ν) :=
  match entries with
  | [] => [(key, value)]
  | (k, v) :: rest => if k == key then (k, value) :: rest else (k, v) :: put rest key value

/-- Adds a key with its value at the end, unless the key is there. -/
def putNew (entries : List (κ × ν)) (key : κ) (value : ν) : List (κ × ν) :=
  if (entries.lookup key).isSome then entries else entries ++ [(key, value)]

/-- Takes a key out. -/
def remove (entries : List (κ × ν)) (key : κ) : List (κ × ν) :=
  entries.filter fun entry => !(entry.1 == key)

theorem lookup_put_self (entries : List (κ × ν)) (key : κ) (value : ν) :
    (put entries key value).lookup key = some value := by
  induction entries with
  | nil => simp [put]
  | cons entry rest ih =>
    obtain ⟨k, v⟩ := entry
    by_cases h : k = key
    · subst h
      simp [put]
    · have hkey : (key == k) = false := by simpa using Ne.symm h
      simp [put, h, List.lookup_cons, hkey, ih]

theorem lookup_put_of_ne (entries : List (κ × ν)) {key other : κ} (value : ν) (h : other ≠ key) :
    (put entries key value).lookup other = entries.lookup other := by
  induction entries with
  | nil =>
    have hother : (other == key) = false := by simpa using h
    simp [put, List.lookup_cons, hother]
  | cons entry rest ih =>
    obtain ⟨k, v⟩ := entry
    by_cases hk : k = key
    · subst hk
      have hother : (other == k) = false := by simpa using h
      simp [put, List.lookup_cons, hother]
    · by_cases ho : other = k
      · subst ho
        simp [put, hk]
      · have hother : (other == k) = false := by simpa using ho
        simp [put, hk, List.lookup_cons, hother, ih]

/-- A key that is not there is put at the end. -/
theorem put_of_not_mem {entries : List (κ × ν)} {key : κ} (value : ν)
    (h : key ∉ entries.map Prod.fst) : put entries key value = entries ++ [(key, value)] := by
  induction entries with
  | nil => rfl
  | cons entry rest ih =>
    obtain ⟨k, v⟩ := entry
    have hKey : k ≠ key := by
      rintro rfl
      exact h List.mem_cons_self
    have hRest : key ∉ rest.map Prod.fst := fun hMem => h (List.mem_cons_of_mem k hMem)
    simp [put, hKey, ih hRest]

/-- A key that is there keeps its place. -/
theorem keys_put_of_mem {entries : List (κ × ν)} {key : κ} (value : ν) (h : key ∈ entries.map Prod.fst) :
    (put entries key value).map Prod.fst = entries.map Prod.fst := by
  induction entries with
  | nil => cases h
  | cons entry rest ih =>
    obtain ⟨k, v⟩ := entry
    by_cases hKey : k = key
    · simp [put, hKey]
    · have hRest : key ∈ rest.map Prod.fst := (List.mem_cons.mp h).resolve_left (Ne.symm hKey)
      simp [put, hKey, ih hRest]

/-- Of entries that are put one after the other, the last one with a key counts. -/
theorem lookup_foldl_put (before entries : List (κ × ν)) (key : κ) :
    (entries.foldl (fun es entry => put es entry.1 entry.2) before).lookup key =
      (entries.reverse.lookup key).or (before.lookup key) := by
  induction entries generalizing before with
  | nil => rfl
  | cons entry rest ih =>
    obtain ⟨k, v⟩ := entry
    rw [List.foldl_cons, ih, List.reverse_cons, List.lookup_append, Option.or_assoc]
    congr 1
    by_cases hKey : key = k
    · subst hKey
      simp [lookup_put_self]
    · have hOther : (key == k) = false := by simpa using hKey
      simp [lookup_put_of_ne before v hKey, List.lookup_cons, hOther]

/-- A key that is there already keeps its value, so that adding it again changes nothing. -/
theorem lookup_putNew (entries : List (κ × ν)) (key other : κ) (value : ν) :
    (putNew entries key value).lookup other = (entries ++ [(key, value)]).lookup other := by
  unfold putNew
  split
  · rename_i hThere
    by_cases hKey : other = key
    · subst hKey
      obtain ⟨v, hFound⟩ := Option.isSome_iff_exists.mp hThere
      simp [List.lookup_append, hFound]
    · have hOther : (other == key) = false := by simpa using hKey
      simp [List.lookup_append, List.lookup_cons, hOther]
  · rfl

theorem lookup_of_not_mem {entries : List (κ × ν)} {key : κ} (h : key ∉ entries.map Prod.fst) :
    entries.lookup key = none := by
  refine List.lookup_eq_none_iff.mpr fun entry hEntry => ?_
  rw [bne_iff_ne]
  rintro rfl
  exact h (List.mem_map.mpr ⟨entry, hEntry, rfl⟩)

theorem mem_of_lookup {entries : List (κ × ν)} {key : κ} {value : ν}
    (h : entries.lookup key = some value) : (key, value) ∈ entries := by
  obtain ⟨before, after, hSplit, -⟩ := List.lookup_eq_some_iff.mp h
  rw [hSplit]
  exact List.mem_append_right before List.mem_cons_self

/-- With distinct keys, the entries are what is found. -/
theorem lookup_eq_some_iff_mem {entries : List (κ × ν)} (h : (entries.map Prod.fst).Nodup) {key : κ}
    {value : ν} : entries.lookup key = some value ↔ (key, value) ∈ entries := by
  refine ⟨mem_of_lookup, fun hMem => ?_⟩
  induction entries with
  | nil => cases hMem
  | cons entry rest ih =>
    obtain ⟨hNew, hRest⟩ := List.nodup_cons.mp h
    rcases List.mem_cons.mp hMem with rfl | hMem
    · exact List.lookup_cons_self
    · have hOther : (key == entry.1) = false := by
        rw [beq_eq_false_iff_ne]
        rintro rfl
        exact hNew (List.mem_map.mpr ⟨_, hMem, rfl⟩)
      rw [List.lookup_cons, hOther]
      exact ih hRest hMem

/-- With distinct keys, the order of the entries is of no account. -/
theorem lookup_perm {entries others : List (κ × ν)} (hPerm : entries.Perm others)
    (h : (others.map Prod.fst).Nodup) (key : κ) : entries.lookup key = others.lookup key := by
  have hDistinct : (entries.map Prod.fst).Nodup := (hPerm.map Prod.fst).nodup_iff.mpr h
  ext value
  rw [lookup_eq_some_iff_mem hDistinct, lookup_eq_some_iff_mem h, hPerm.mem_iff]

/-- A list with distinct keys is known by these and by what is found. -/
theorem eq_of_lookup {entries others : List (κ × ν)} (h : (others.map Prod.fst).Nodup)
    (hKeys : entries.map Prod.fst = others.map Prod.fst) (hLookup : ∀ key, entries.lookup key = others.lookup key) :
    entries = others := by
  induction entries generalizing others with
  | nil => exact (List.map_eq_nil_iff.mp hKeys.symm).symm
  | cons entry rest ih =>
    cases others with
    | nil => cases hKeys
    | cons other others =>
      obtain ⟨k, v⟩ := entry
      obtain ⟨k', v'⟩ := other
      obtain ⟨rfl, hRestKeys⟩ := List.cons.inj hKeys
      obtain ⟨hNew, hDistinct⟩ := List.nodup_cons.mp h
      have hValue : some v = some v' := by simpa using hLookup k
      -- The first key is met again in neither list, and every other one is looked up behind it.
      have hRest : rest = others := ih hDistinct hRestKeys fun key => by
        by_cases hKey : key = k
        · subst hKey
          rw [lookup_of_not_mem hNew, lookup_of_not_mem fun hMem => hNew (hRestKeys ▸ hMem)]
        · have hOther : (key == k) = false := beq_eq_false_iff_ne.mpr hKey
          simpa [List.lookup_cons, hOther] using hLookup key
      rw [Option.some.inj hValue, hRest]

omit [LawfulBEq κ] in
theorem lookup_map {μ : Type w} (f : ν → μ) (entries : List (κ × ν)) (key : κ) :
    (entries.map fun entry => (entry.1, f entry.2)).lookup key = (entries.lookup key).map f := by
  induction entries with
  | nil => rfl
  | cons entry rest ih =>
    rw [List.map_cons, List.lookup_cons, List.lookup_cons]
    cases key == entry.1 with
    | true => rfl
    | false => exact ih

end UnitConversion.Association
