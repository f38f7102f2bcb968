/-!
# Tables

Entries in the order in which their keys first came. Writing under a key that is present replaces
the value in its place.
-/
namespace Detour

abbrev Table (κ α : Type) := List (κ × α)

namespace Table

variable {κ α : Type} [DecidableEq κ]

def get? (key : κ) : Table κ α → Option α
  | [] => none
  | (k, v) :: r => if k = key then some v else get? key r

def put (key : κ) (value : α) : Table κ α → Table κ α
  | [] => [(key, value)]
  | (k, v) :: r => if k = key then (key, value) :: r else (k, v) :: put key value r

def erase (key : κ) (t : Table κ α) : Table κ α := t.filter fun (k, _) => k ≠ key

def keys (t : Table κ α) : List κ := t.map Prod.fst

/-- The later table wins where both have a key. -/
def merge (t later : Table κ α) : Table κ α := later.foldl (fun t (k, v) => put k v t) t

@[simp] theorem get?_put_self (key : κ) (value : α) (t : Table κ α) :
    get? key (put key value t) = some value := by
  induction t with
  | nil => simp [put, get?]
  | cons e r ih => by_cases h : e.1 = key <;> simp [put, get?, h, ih]

theorem get?_put_of_ne {key other : κ} (h : other ≠ key) (value : α) (t : Table κ α) :
    get? other (put key value t) = get? other t := by
  induction t with
  | nil => simp [put, get?, h.symm]
  | cons e r ih =>
    by_cases hk : e.1 = key
    · subst hk
      simp [put, get?, h.symm]
    · by_cases ho : e.1 = other
      · simp [put, get?, ho, h]
      · simp [put, get?, hk, ho, ih]

@[simp] theorem get?_erase_self (key : κ) (t : Table κ α) : get? key (erase key t) = none := by
  induction t with
  | nil => rfl
  | cons e r ih =>
    by_cases h : e.1 = key <;> simp_all [erase, get?]

theorem get?_erase_of_ne {key other : κ} (h : other ≠ key) (t : Table κ α) :
    get? other (erase key t) = get? other t := by
  induction t with
  | nil => rfl
  | cons e r ih =>
    by_cases hk : e.1 = key
    · subst hk
      simpa [erase, get?, h.symm] using ih
    · by_cases ho : e.1 = other <;> simp_all [erase, get?]

/-- What is found is an entry. -/
theorem mem_of_get? {key : κ} {value : α} {t : Table κ α} (h : get? key t = some value) :
    (key, value) ∈ t := by
  induction t with
  | nil => cases h
  | cons e r ih =>
    by_cases hk : e.1 = key
    · obtain rfl : e.2 = value := by simpa [get?, hk] using h
      simp [← hk]
    · exact List.mem_cons_of_mem e (ih (by simpa [get?, hk] using h))

/-- What is kept is still found. -/
theorem get?_filter {key : κ} {value : α} {t : Table κ α} {p : κ × α → Bool}
    (h : get? key t = some value) (kept : p (key, value) = true) :
    get? key (t.filter p) = some value := by
  induction t with
  | nil => cases h
  | cons e r ih =>
    by_cases hk : e.1 = key
    · subst hk
      obtain rfl : e.2 = value := by simpa [get?] using h
      simp [get?, kept]
    · have rest : get? key (r.filter p) = some value := ih (by simpa [get?, hk] using h)
      by_cases he : p e = true
      · simpa [get?, he, hk] using rest
      · simpa [he] using rest

theorem mem_keys_put {key other : κ} {value : α} {t : Table κ α} :
    other ∈ keys (put key value t) ↔ other = key ∨ other ∈ keys t := by
  induction t with
  | nil => simp [put, keys]
  | cons e r ih =>
    simp only [keys] at ih
    by_cases h : e.1 = key
    · simp [put, keys, h]
    · simp [put, keys, h, ih, or_left_comm]

/-- Writing an entry adds one at most. -/
theorem length_put_le (key : κ) (value : α) (t : Table κ α) :
    (put key value t).length ≤ t.length + 1 := by
  induction t with
  | nil => simp [put]
  | cons e r ih =>
    by_cases h : e.1 = key
    · simp [put, h]
    · simpa [put, h] using ih

theorem mem_put {key : κ} {value : α} {t : Table κ α} {e : κ × α} (h : e ∈ put key value t) :
    e = (key, value) ∨ e ∈ t := by
  induction t with
  | nil => exact .inl (List.mem_singleton.1 h)
  | cons first r ih =>
    by_cases same : first.1 = key
    · simp only [put, same, if_true, List.mem_cons] at h
      exact h.imp_right (List.mem_cons_of_mem _)
    · simp only [put, same, if_false, List.mem_cons] at h
      rcases h with rfl | later
      · exact .inr List.mem_cons_self
      · exact (ih later).imp_right (List.mem_cons_of_mem _)

/-- A new key comes last. -/
theorem put_of_not_mem {key : κ} (value : α) {t : Table κ α} (h : key ∉ keys t) :
    put key value t = t ++ [(key, value)] := by
  induction t with
  | nil => rfl
  | cons e r ih =>
    obtain ⟨other, absent⟩ := not_or.1 fun hk => h (List.mem_cons.2 hk)
    rw [put, if_neg (Ne.symm other), ih absent, List.cons_append]

theorem nodup_keys_put {key : κ} {value : α} {t : Table κ α} (h : t.keys.Nodup) :
    (put key value t).keys.Nodup := by
  induction t with
  | nil => simp [put, keys]
  | cons e r ih =>
    have h : e.1 ∉ keys r ∧ (keys r).Nodup := List.nodup_cons.1 h
    by_cases same : e.1 = key
    · simpa [put, keys, same] using h
    · have other : e.1 ∉ keys (put key value r) := by
        rw [mem_keys_put]
        exact fun hk => hk.elim same h.1
      simpa [put, same, keys] using And.intro other (ih h.2)

omit [DecidableEq κ] in
theorem nodup_keys_filter {t : Table κ α} (h : t.keys.Nodup) (p : κ × α → Bool) :
    (keys (t.filter p)).Nodup :=
  h.sublist (List.filter_sublist.map _)

/-- Where no key is repeated, a table has the value that stands with a key. -/
theorem get?_eq_some_iff {key : κ} {value : α} {t : Table κ α} (h : t.keys.Nodup) :
    get? key t = some value ↔ (key, value) ∈ t := by
  induction t with
  | nil => simp [get?]
  | cons e r ih =>
    obtain ⟨k, v⟩ := e
    have h : k ∉ keys r ∧ (keys r).Nodup := List.nodup_cons.1 h
    by_cases same : k = key
    · subst same
      have absent : (k, value) ∉ r := fun hr => h.1 (List.mem_map.2 ⟨_, hr, rfl⟩)
      simp [get?, absent, eq_comm]
    · simp [get?, same, ih h.2, Ne.symm same]

theorem erase_append (key : κ) (t u : Table κ α) :
    erase key (t ++ u) = t.erase key ++ u.erase key := List.filter_append t u

theorem erase_of_not_mem {key : κ} {t : Table κ α} (h : key ∉ t.keys) : t.erase key = t := by
  refine List.filter_eq_self.2 fun e he => ?_
  have other : e.1 ≠ key := fun same => h (List.mem_map.2 ⟨e, he, same⟩)
  simpa using other

/-- Where no key is repeated, one entry is erased. -/
theorem perm_cons_erase {key : κ} {value : α} {t : Table κ α} (h : t.keys.Nodup)
    (there : (key, value) ∈ t) : t.Perm ((key, value) :: t.erase key) := by
  induction t with
  | nil => cases there
  | cons e r ih =>
    have h : e.1 ∉ keys r ∧ (keys r).Nodup := List.nodup_cons.1 h
    rcases List.mem_cons.1 there with rfl | rest
    · have gone : erase key ((key, value) :: r) = r := by
        simpa [erase] using erase_of_not_mem h.1
      rw [gone]
    · have other : e.1 ≠ key := fun same => h.1 (List.mem_map.2 ⟨_, rest, same.symm⟩)
      have kept : erase key (e :: r) = e :: erase key r := by simp [erase, other]
      rw [kept]
      exact ((ih h.2 rest).cons e).trans (List.Perm.swap _ _ _)

end Table
end Detour
