import ApiDirectives.Table
import Mathlib.Data.List.Induction
import Mathlib.Data.List.Nodup

/-!
# Laws of tables

A table is read key by key. Each operation on tables is described by what a look-up finds after it,
so that proofs about drafts never open the recursion of an operation. The keys of a table are its
domain: a look-up fails exactly off it.

Tables are filled by one entry after another. `Table.gathered` says at once what stands in such a
table: the keys in the order in which they first appear, each with what is made of all the values given
to it, of which some tables keep the last and some the first.
-/

namespace ApiDirectives

namespace Table

variable {κ α : Type}

theorem keys_cons (entry : κ × α) (t : Table κ α) : keys (entry :: t) = entry.1 :: keys t := rfl

variable [DecidableEq κ]

/-! ## Look-up and membership -/

@[simp]
theorem get?_nil (k : κ) : get? ([] : Table κ α) k = none := rfl

theorem get?_cons (k' : κ) (a : α) (t : Table κ α) (k : κ) :
    get? ((k', a) :: t) k = if k' = k then some a else get? t k := rfl

/-- A look-up fails exactly off the keys. -/
theorem get?_eq_none_iff {t : Table κ α} {k : κ} : t.get? k = none ↔ k ∉ t.keys := by
  induction t with
  | nil => simp [keys]
  | cons entry t ih =>
    obtain ⟨k', a'⟩ := entry
    rw [get?_cons]
    simp only [keys_cons, List.mem_cons, not_or]
    by_cases hk : k' = k
    · simp [hk]
    · rw [if_neg hk, ih]
      exact ⟨fun h => ⟨Ne.symm hk, h⟩, fun h => h.2⟩

/-- Where no key repeats, the order of the entries decides nothing. -/
theorem get?_eq_of_perm {t u : Table κ α} (h : t.Perm u) (hkeys : t.keys.Nodup) (k : κ) :
    t.get? k = u.get? k := by
  induction h with
  | nil => rfl
  | cons entry _ ih =>
    obtain ⟨k', a⟩ := entry
    have htail := (List.nodup_cons.mp hkeys).2
    rw [get?_cons, get?_cons, ih htail]
  | swap first second rest =>
    obtain ⟨k₁, a₁⟩ := first
    obtain ⟨k₂, a₂⟩ := second
    have hne : k₂ ≠ k₁ := by
      intro heq
      exact (List.nodup_cons.mp hkeys).1 (by simp [heq])
    simp only [get?_cons]
    by_cases hk : k₂ = k
    · rw [if_pos hk, if_neg (hk ▸ hne.symm), if_pos hk]
    · rw [if_neg hk, if_neg hk]
  | trans hab _ ihab ihbc =>
    exact (ihab hkeys).trans (ihbc ((hab.map Prod.fst).nodup_iff.mp hkeys))

/-- Where no key repeats, every entry is found. -/
theorem get?_of_mem {t : Table κ α} (hkeys : t.keys.Nodup) {entry : κ × α} (h : entry ∈ t) :
    t.get? entry.1 = some entry.2 := by
  induction t with
  | nil => cases h
  | cons head t ih =>
    obtain ⟨k, a⟩ := head
    obtain ⟨hnew, htail⟩ : k ∉ keys t ∧ (keys t).Nodup := List.nodup_cons.mp hkeys
    rw [get?_cons]
    rcases List.mem_cons.mp h with rfl | hmem
    · rw [if_pos rfl]
    · have hne : k ≠ entry.1 := by
        rintro rfl
        exact hnew (List.mem_map_of_mem hmem)
      rw [if_neg hne, ih htail hmem]

/-! ## Look-up after a change -/

@[simp]
theorem put_nil (k : κ) (a : α) : put ([] : Table κ α) k a = [(k, a)] := rfl

theorem put_cons (k' : κ) (b : α) (t : Table κ α) (k : κ) (a : α) :
    put ((k', b) :: t) k a = if k' = k then (k, a) :: t else (k', b) :: put t k a := rfl

@[simp]
theorem adjust_nil (k : κ) (f : α → α) : adjust ([] : Table κ α) k f = [] := rfl

theorem adjust_cons (k' : κ) (b : α) (t : Table κ α) (k : κ) (f : α → α) :
    adjust ((k', b) :: t) k f = if k' = k then (k', f b) :: t else (k', b) :: adjust t k f := rfl

theorem get?_append (t u : Table κ α) (k : κ) :
    get? (t ++ u) k = (get? t k).or (get? u k) := by
  induction t with
  | nil => rfl
  | cons entry t ih =>
    obtain ⟨k', a'⟩ := entry
    rw [List.cons_append, get?_cons, get?_cons, ih]
    by_cases hk : k' = k
    · rw [if_pos hk, if_pos hk, Option.some_or]
    · rw [if_neg hk, if_neg hk]

theorem get?_mapValues {β : Type} (f : α → β) (t : Table κ α) (k : κ) :
    get? (mapValues f t) k = (get? t k).map f := by
  induction t with
  | nil => rfl
  | cons entry t ih =>
    obtain ⟨k', a⟩ := entry
    change (if k' = k then some (f a) else get? (mapValues f t) k) = _
    rw [ih, get?_cons]
    by_cases hk : k' = k
    · rw [if_pos hk, if_pos hk, Option.map_some]
    · rw [if_neg hk, if_neg hk]

theorem get?_adjust (t : Table κ α) (k : κ) (f : α → α) (k' : κ) :
    (t.adjust k f).get? k' = if k = k' then (t.get? k').map f else t.get? k' := by
  induction t with
  | nil => simp
  | cons entry t ih =>
    obtain ⟨j, a⟩ := entry
    by_cases hj : j = k
    · subst hj
      simp only [adjust_cons, if_true, get?_cons]
      by_cases hk : j = k' <;> simp [hk]
    · simp only [adjust_cons, if_neg hj, get?_cons, ih]
      by_cases hk : j = k'
      · subst hk
        simp [Ne.symm hj]
      · simp [hk]

theorem get?_putNew (t : Table κ α) (k : κ) (a : α) (k' : κ) :
    (t.putNew k a).get? k' = if k = k' then some ((t.get? k).getD a) else t.get? k' := by
  by_cases hk : k = k'
  · subst hk
    cases h : t.get? k <;> simp [putNew, has, h, get?_append, get?_cons]
  · rw [if_neg hk]
    unfold putNew
    split
    · rfl
    · simp [get?_append, get?_cons, hk]

theorem get?_put (t : Table κ α) (k : κ) (a : α) (k' : κ) :
    (t.put k a).get? k' = if k = k' then some a else t.get? k' := by
  induction t with
  | nil => rfl
  | cons entry t ih =>
    obtain ⟨j, b⟩ := entry
    by_cases hj : j = k
    · subst hj
      simp only [put_cons, if_true, get?_cons]
      by_cases hk : j = k' <;> simp [hk]
    · simp only [put_cons, if_neg hj, get?_cons, ih]
      by_cases hk : j = k'
      · subst hk
        simp [Ne.symm hj]
      · simp [hk]

/-! ## One change after another -/

theorem adjust_self (t : Table κ α) (k : κ) : t.adjust k (fun a => a) = t := by
  induction t with
  | nil => rfl
  | cons entry t ih =>
    obtain ⟨j, b⟩ := entry
    rw [adjust_cons, ih, ite_self]

theorem adjust_adjust (t : Table κ α) (k : κ) (f g : α → α) :
    (t.adjust k f).adjust k g = t.adjust k fun a => g (f a) := by
  induction t with
  | nil => rfl
  | cons entry t ih =>
    obtain ⟨j, b⟩ := entry
    by_cases hj : j = k <;> simp [adjust_cons, hj, ih]

theorem adjust_put (t : Table κ α) (k : κ) (a : α) (f : α → α) :
    (t.put k a).adjust k f = t.put k (f a) := by
  induction t with
  | nil => simp [adjust_cons]
  | cons entry t ih =>
    obtain ⟨j, b⟩ := entry
    by_cases hj : j = k <;> simp [put_cons, adjust_cons, hj, ih]

theorem put_put (t : Table κ α) (k : κ) (a b : α) : (t.put k a).put k b = t.put k b := by
  induction t with
  | nil => simp [put_cons]
  | cons entry t ih =>
    obtain ⟨j, c⟩ := entry
    by_cases hj : j = k <;> simp [put_cons, hj, ih]

theorem putNew_of_get? {t : Table κ α} {k : κ} {b : α} (h : t.get? k = some b) (a : α) :
    t.putNew k a = t := by
  simp [putNew, has, h]

theorem putNew_eq_put {t : Table κ α} {k : κ} (h : t.get? k = none) (a : α) :
    t.putNew k a = t.put k a := by
  have hput : t.put k a = t ++ [(k, a)] := by
    induction t with
    | nil => rfl
    | cons entry t ih =>
      obtain ⟨j, b⟩ := entry
      rw [get?_cons] at h
      by_cases hj : j = k
      · rw [if_pos hj] at h
        cases h
      · rw [if_neg hj] at h
        rw [put_cons, if_neg hj, ih h, List.cons_append]
  rw [hput, putNew, has, h]
  rfl

/-! ## Keys and values after a change -/

theorem has_iff {t : Table κ α} {k : κ} : t.has k = true ↔ k ∈ t.keys := by
  rw [has, Option.isSome_iff_ne_none, ne_eq, get?_eq_none_iff, not_not]

/-- A new key is put at the end, a known one keeps its place. -/
theorem keys_put (t : Table κ α) (k : κ) (a : α) :
    (t.put k a).keys = if k ∈ t.keys then t.keys else t.keys ++ [k] := by
  induction t with
  | nil => rfl
  | cons entry t ih =>
    obtain ⟨j, b⟩ := entry
    by_cases hj : j = k
    · rw [put_cons, if_pos hj, keys_cons, keys_cons, if_pos (by simp [hj]), hj]
    · rw [put_cons, if_neg hj, keys_cons, keys_cons, ih]
      by_cases hk : k ∈ keys t
      · rw [if_pos hk, if_pos (List.mem_cons_of_mem j hk)]
      · rw [if_neg hk, if_neg (by simp [hk, Ne.symm hj]), List.cons_append]

theorem keys_putNew (t : Table κ α) (k : κ) (a : α) :
    (t.putNew k a).keys = if k ∈ t.keys then t.keys else t.keys ++ [k] := by
  unfold putNew
  by_cases hk : k ∈ t.keys
  · rw [if_pos (has_iff.mpr hk), if_pos hk]
  · rw [if_neg (has_iff.not.mpr hk), if_neg hk]
    simp [keys]

theorem keys_adjust (t : Table κ α) (k : κ) (f : α → α) : (t.adjust k f).keys = t.keys := by
  induction t with
  | nil => rfl
  | cons entry t ih =>
    obtain ⟨j, b⟩ := entry
    by_cases hj : j = k <;> simp [adjust_cons, keys_cons, hj, ih]

theorem nodup_keys_putNew {t : Table κ α} (h : t.keys.Nodup) (k : κ) (a : α) :
    (t.putNew k a).keys.Nodup := by
  rw [keys_putNew]
  split
  · exact h
  · rename_i hnew
    exact h.append (List.nodup_singleton k) (List.disjoint_singleton.mpr hnew)

theorem mem_values_put {t : Table κ α} {k : κ} {a v : α} (h : v ∈ (t.put k a).values) :
    v = a ∨ v ∈ t.values := by
  induction t with
  | nil => exact .inl (by simpa [values] using h)
  | cons entry t ih =>
    obtain ⟨j, b⟩ := entry
    simp only [values] at ih
    by_cases hj : j = k
    · simp only [put_cons, if_pos hj, values, List.map_cons, List.mem_cons] at h ⊢
      exact h.imp_right .inr
    · simp only [put_cons, if_neg hj, values, List.map_cons, List.mem_cons] at h ⊢
      rcases h with rfl | h
      · exact .inr (.inl rfl)
      · exact (ih h).imp_right .inr

theorem mem_values_putNew {t : Table κ α} {k : κ} {a v : α} (h : v ∈ (t.putNew k a).values) :
    v = a ∨ v ∈ t.values := by
  unfold putNew at h
  split at h
  · exact .inr h
  · simp only [values, List.map_append, List.map_cons, List.map_nil, List.mem_append,
      List.mem_singleton] at h
    exact h.symm

theorem mem_values_adjust {t : Table κ α} {k : κ} {f : α → α} {v : α}
    (h : v ∈ (t.adjust k f).values) : v ∈ t.values ∨ ∃ u ∈ t.values, v = f u := by
  induction t with
  | nil => exact .inl h
  | cons entry t ih =>
    obtain ⟨j, b⟩ := entry
    simp only [values] at ih
    by_cases hj : j = k
    · simp only [adjust_cons, if_pos hj, values, List.map_cons, List.mem_cons] at h ⊢
      rcases h with rfl | h
      · exact .inr ⟨b, .inl rfl, rfl⟩
      · exact .inl (.inr h)
    · simp only [adjust_cons, if_neg hj, values, List.map_cons, List.mem_cons] at h ⊢
      rcases h with rfl | h
      · exact .inl (.inl rfl)
      · rcases ih h with hold | ⟨u, hu, rfl⟩
        · exact .inl (.inr hold)
        · exact .inr ⟨u, .inr hu, rfl⟩

/-! ## Tables made from entries -/

/-- Tables without repeated keys are told apart by the order of their keys and by look-ups. -/
theorem ext_get? {t u : Table κ α} (hkeys : t.keys = u.keys) (hnodup : t.keys.Nodup)
    (hget : ∀ k, t.get? k = u.get? k) : t = u := by
  induction t generalizing u with
  | nil => exact (List.map_eq_nil_iff.mp hkeys.symm).symm
  | cons entry t ih =>
    obtain ⟨k, a⟩ := entry
    cases u with
    | nil => cases hkeys
    | cons entry' u =>
      obtain ⟨k', a'⟩ := entry'
      obtain ⟨rfl, htail⟩ : k = k' ∧ keys t = keys u := List.cons.inj hkeys
      obtain ⟨hnew, hnodup⟩ : k ∉ keys t ∧ (keys t).Nodup := List.nodup_cons.mp hnodup
      have hvalue : a = a' := by simpa [get?_cons] using hget k
      have hrest : t = u := by
        refine ih htail hnodup fun j => ?_
        by_cases hj : k = j
        · rw [← hj, get?_eq_none_iff.mpr hnew, get?_eq_none_iff.mpr (htail ▸ hnew)]
        · simpa [get?_cons, hj] using hget j
      rw [hvalue, hrest]

/-- Putting the value that a key has changes nothing. -/
theorem put_of_get? {t : Table κ α} {k : κ} {a : α} (h : t.get? k = some a) : t.put k a = t := by
  induction t with
  | nil => cases h
  | cons entry t ih =>
    obtain ⟨k', a'⟩ := entry
    rw [get?_cons] at h
    by_cases hk : k' = k
    · rw [if_pos hk] at h
      rw [put_cons, if_pos hk, hk, Option.some.inj h]
    · rw [if_neg hk] at h
      rw [put_cons, if_neg hk, ih h]

/-- One more name is listed unless it is listed already. -/
theorem eraseDups_concat (names : List κ) (name : κ) :
    (names ++ [name]).eraseDups =
      if name ∈ names.eraseDups then names.eraseDups else names.eraseDups ++ [name] := by
  rw [List.eraseDups_append]
  by_cases h : name ∈ names
  · simp [List.removeAll, h]
  · simp [List.removeAll, h, List.eraseDups_cons]

theorem nodup_eraseDups (names : List κ) : names.eraseDups.Nodup := by
  induction names using List.reverseRecOn with
  | nil => exact List.nodup_nil
  | append_singleton names name ih =>
    rw [eraseDups_concat]
    split
    · exact ih
    · rename_i hnew
      exact ih.append (List.nodup_singleton name) (List.disjoint_singleton.mpr hnew)

/-- The values that entries give to a key, in order. -/
def given (entries : List (κ × α)) (k : κ) : List α :=
  entries.filterMap fun (key, a) => if key = k then some a else none

/-- The keys of entries in the order of their first appearance, each with what is made of the values
given to it. -/
def gathered {β : Type} (make : List α → β) (entries : List (κ × α)) : Table κ β :=
  (keys entries).eraseDups.map fun k => (k, make (given entries k))

/-- The keys of entries in the order of their first appearance, each with its last value. No key is
without a value. -/
def lastOf [Inhabited α] (entries : List (κ × α)) : Table κ α :=
  gathered (·.getLastD default) entries

/-- The keys of entries in the order of their first appearance, each with its first value. No key is
without a value. -/
def firstOf [Inhabited α] (entries : List (κ × α)) : Table κ α :=
  gathered (·.headD default) entries

section Gathered

variable {β : Type} (make : List α → β) (entries : List (κ × α))

@[simp]
theorem keys_gathered : (gathered make entries).keys = (keys entries).eraseDups := by
  simp [gathered, keys, Function.comp_def]

theorem nodup_keys_gathered : (gathered make entries).keys.Nodup := by
  rw [keys_gathered]
  exact nodup_eraseDups _

theorem given_concat (k : κ) (a : α) (k' : κ) :
    given (entries ++ [(k, a)]) k' = given entries k' ++ if k = k' then [a] else [] := by
  unfold given
  rw [List.filterMap_append]
  by_cases hk : k = k' <;> simp [hk]

theorem given_eq_nil {k : κ} (h : k ∉ keys entries) : given entries k = [] := by
  rw [given, List.filterMap_eq_nil_iff]
  rintro ⟨key, a⟩ hentry
  have hkey : key ≠ k := by
    rintro rfl
    exact h (List.mem_map_of_mem hentry)
  simp [hkey]

theorem given_ne_nil {k : κ} (h : k ∈ keys entries) : given entries k ≠ [] := by
  obtain ⟨⟨key, a⟩, hentry, rfl⟩ := List.mem_map.mp h
  have ha : a ∈ given entries key := List.mem_filterMap.mpr ⟨(key, a), hentry, by simp⟩
  exact List.ne_nil_of_mem ha

theorem get?_gathered (k : κ) :
    (gathered make entries).get? k =
      if k ∈ keys entries then some (make (given entries k)) else none := by
  have listed : ∀ names : List κ,
      get? (names.map fun k => (k, make (given entries k))) k =
        if k ∈ names then some (make (given entries k)) else none := by
    intro names
    induction names with
    | nil => rfl
    | cons name names ih =>
      rw [List.map_cons, get?_cons, ih]
      by_cases hk : name = k
      · simp [hk]
      · simp [hk, Ne.symm hk]
  rw [gathered, listed]
  simp only [List.mem_eraseDups]

/-- A key that is not there was given nothing. -/
theorem getD_gathered (k : κ) :
    ((gathered make entries).get? k).getD (make []) = make (given entries k) := by
  rw [get?_gathered]
  split
  · rfl
  · rename_i hk
    rw [given_eq_nil entries hk]
    rfl

/-- One more entry gives its key what is made of one more value. -/
theorem gathered_concat (k : κ) (a : α) :
    gathered make (entries ++ [(k, a)]) =
      (gathered make entries).put k (make (given entries k ++ [a])) := by
  have hkeys : keys (entries ++ [(k, a)]) = keys entries ++ [k] := by simp [keys]
  refine ext_get? ?_ (nodup_keys_gathered _ _) fun k' => ?_
  · rw [keys_gathered, keys_put, keys_gathered, hkeys, eraseDups_concat]
  · rw [get?_gathered, get?_put, get?_gathered, hkeys, given_concat]
    by_cases hk : k = k'
    · simp [hk]
    · simp [hk, Ne.symm hk]

end Gathered

section Kept

variable [Inhabited α] (entries : List (κ × α)) (k : κ)

theorem get?_lastOf : (lastOf entries).get? k = (given entries k).getLast? := by
  rw [lastOf, get?_gathered]
  by_cases hk : k ∈ keys entries
  · rw [if_pos hk, List.getLastD_eq_getLast?,
      List.getLast?_eq_some_getLast (given_ne_nil entries hk)]
    rfl
  · rw [if_neg hk, given_eq_nil entries hk]
    rfl

theorem get?_firstOf : (firstOf entries).get? k = (given entries k).head? := by
  rw [firstOf, get?_gathered]
  by_cases hk : k ∈ keys entries
  · rw [if_pos hk, List.headD_eq_head?_getD, List.head?_eq_some_head (given_ne_nil entries hk)]
    rfl
  · rw [if_neg hk, given_eq_nil entries hk]
    rfl

theorem mem_lastOf {entry : κ × α} (h : entry ∈ lastOf entries) : entry ∈ entries := by
  obtain ⟨k, a⟩ := entry
  have hvalue : (given entries k).getLast? = some a := by
    rw [← get?_lastOf]
    exact get?_of_mem (nodup_keys_gathered _ _) h
  obtain ⟨⟨key, b⟩, hentry, hpick⟩ := List.mem_filterMap.mp (List.mem_of_getLast? hvalue)
  obtain ⟨rfl, rfl⟩ : key = k ∧ b = a := by simpa using hpick
  exact hentry

theorem lastOf_concat (a : α) : lastOf (entries ++ [(k, a)]) = (lastOf entries).put k a := by
  rw [lastOf, gathered_concat, List.getLastD_concat]
  rfl

theorem firstOf_concat (a : α) : firstOf (entries ++ [(k, a)]) = (firstOf entries).putNew k a := by
  have hkeys : keys (entries ++ [(k, a)]) = keys entries ++ [k] := by simp [keys]
  refine ext_get? ?_ (nodup_keys_gathered _ _) fun k' => ?_
  · rw [firstOf, keys_gathered, keys_putNew, firstOf, keys_gathered, hkeys, eraseDups_concat]
  · rw [get?_putNew, get?_firstOf, get?_firstOf, get?_firstOf, given_concat, List.head?_append]
    by_cases hk : k = k'
    · subst hk
      cases (given entries k).head? <;> simp
    · simp [hk]

/-- Further entries are put where their keys are new. -/
theorem firstOf_append (more : List (κ × α)) :
    firstOf (entries ++ more) =
      more.foldl (fun t entry => t.putNew entry.1 entry.2) (firstOf entries) := by
  induction more generalizing entries with
  | nil => rw [List.append_nil, List.foldl_nil]
  | cons entry more ih =>
    rw [List.foldl_cons, ← firstOf_concat, ← ih, List.append_assoc]
    rfl

end Kept

end Table

end ApiDirectives
