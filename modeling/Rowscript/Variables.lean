/-!
# Variables — the values that names stand for

A finite map from names to texts, kept as a list in which no name stands twice.  It is looked at
through `get?` alone: the order of the entries is no part of it.
-/

namespace Rowscript

/-- Names and their values; no name stands twice. -/
structure Variables where
  entries : List (String × String) := []
  nodup_names : (entries.map Prod.fst).Nodup := by exact List.nodup_nil

namespace Variables

/-- The value of a name. -/
def get? (v : Variables) (name : String) : Option String := v.entries.lookup name

/-- The entries of every other name. -/
def without (entries : List (String × String)) (name : String) : List (String × String) :=
  entries.filter fun entry => entry.1 != name

theorem nodup_without {entries : List (String × String)} (h : (entries.map Prod.fst).Nodup)
    (name : String) : ((without entries name).map Prod.fst).Nodup :=
  h.sublist (List.filter_sublist.map _)

theorem name_notMem_without (entries : List (String × String)) (name : String) :
    name ∉ (without entries name).map Prod.fst := by
  simp [without]

/-- **Gives a name a value**, whatever it stood for before. -/
def insert (v : Variables) (name value : String) : Variables where
  entries := (name, value) :: without v.entries name
  nodup_names := by
    rw [List.map_cons, List.nodup_cons]
    exact ⟨name_notMem_without _ _, nodup_without v.nodup_names name⟩

/-- All names of `w` get their values there; the others keep theirs. -/
def overlay (v w : Variables) : Variables :=
  w.entries.foldl (fun v entry => v.insert entry.1 entry.2) v

/-- The last entry of a name is its value. -/
def ofList (entries : List (String × String)) : Variables :=
  entries.foldl (fun v entry => v.insert entry.1 entry.2) {}

theorem lookup_without_of_ne {entries : List (String × String)} {name other : String}
    (h : other ≠ name) : (without entries name).lookup other = entries.lookup other := by
  induction entries with
  | nil => rfl
  | cons entry entries ih =>
    obtain ⟨key, value⟩ := entry
    by_cases hk : key = name
    · subst hk
      have hb : (other == key) = false := by simpa using h
      simpa [without, List.lookup_cons, hb] using ih
    · by_cases ho : other = key
      · subst ho
        simp [without, hk]
      · have hb : (other == key) = false := by simpa using ho
        simpa [without, hk, List.lookup_cons, hb] using ih

@[simp] theorem get?_empty (name : String) : get? {} name = none := rfl

@[simp] theorem get?_insert_self (v : Variables) (name value : String) :
    (v.insert name value).get? name = some value := by
  simp [get?, insert]

theorem get?_insert_of_ne (v : Variables) {name other : String} (value : String)
    (h : other ≠ name) : (v.insert name value).get? other = v.get? other := by
  have hb : (other == name) = false := by simpa using h
  simp [get?, insert, List.lookup_cons, hb, lookup_without_of_ne h]

theorem get?_insert (v : Variables) (name value other : String) :
    (v.insert name value).get? other = if other = name then some value else v.get? other := by
  split
  · subst_vars
    simp
  · exact get?_insert_of_ne v value (by assumption)

end Variables

end Rowscript
