/-
# Theory.Dict -- insertion-ordered dictionaries

A finite map that remembers the order its keys were first set in: setting a
present key replaces its value in place, setting a new one appends it.  No key
occurs twice, by a field of the structure, so a read has at most one answer and
an entry is its own read (`get?_eq_some`).  Where lists stand under the keys,
`flatten_perm` takes one of them out of all that is listed, and `groups` collects
elements under their keys.
-/
import Mathlib.Data.List.Nodup
import Mathlib.Data.List.Basic
import Mathlib.Data.List.Induction

namespace AlgoTrader.Theory

set_option autoImplicit false

structure Dict (κ ν : Type) where
  entries : List (κ × ν)
  nodup : (entries.map Prod.fst).Nodup

namespace Dict

variable {κ ν : Type}

def empty : Dict κ ν := ⟨[], List.nodup_nil⟩

instance : Inhabited (Dict κ ν) := ⟨empty⟩

def keys (d : Dict κ ν) : List κ := d.entries.map Prod.fst

def values (d : Dict κ ν) : List ν := d.entries.map Prod.snd

theorem mem_keys {d : Dict κ ν} {k : κ} : k ∈ d.keys ↔ ∃ v, (k, v) ∈ d.entries := by
  simp [keys]

theorem entries_nodup (d : Dict κ ν) : d.entries.Nodup := .of_map _ d.nodup

variable [DecidableEq κ]

def get? (d : Dict κ ν) (k : κ) : Option ν :=
  (d.entries.find? fun e => e.1 = k).map Prod.snd

/-- Replace the value of a present key where it stands. -/
def replace (k : κ) (v : ν) (entries : List (κ × ν)) : List (κ × ν) :=
  entries.map fun e => if e.1 = k then (k, v) else e

theorem replace_keys (k : κ) (v : ν) (entries : List (κ × ν)) :
    (replace k v entries).map Prod.fst = entries.map Prod.fst := by
  simp only [replace, List.map_map]
  refine List.map_congr_left fun e _ => ?_
  by_cases same : e.1 = k <;> simp [same]

def set (d : Dict κ ν) (k : κ) (v : ν) : Dict κ ν :=
  if present : k ∈ d.keys then
    ⟨replace k v d.entries, by rw [replace_keys]; exact d.nodup⟩
  else
    ⟨d.entries ++ [(k, v)], by
      simpa [List.nodup_append, d.nodup, keys] using fun k' v' member same =>
        present (List.mem_map.2 ⟨(k', v'), member, same⟩)⟩

/-- Set a key only when it is absent. -/
def setDefault (d : Dict κ ν) (k : κ) (v : ν) : Dict κ ν :=
  if k ∈ d.keys then d else d.set k v

/-- Later entries replace earlier ones with the same key. -/
def ofList (entries : List (κ × ν)) : Dict κ ν := entries.foldl (fun d e => d.set e.1 e.2) empty

/-- The entries that satisfy a condition. -/
def filter (keep : κ × ν → Bool) (d : Dict κ ν) : Dict κ ν :=
  ⟨d.entries.filter keep, (List.filter_sublist.map Prod.fst).nodup d.nodup⟩

def erase (d : Dict κ ν) (k : κ) : Dict κ ν :=
  ⟨d.entries.filter fun e => e.1 ≠ k, (List.filter_sublist.map Prod.fst).nodup d.nodup⟩

/-! ## Reading -/

theorem get?_eq_some {d : Dict κ ν} {k : κ} {v : ν} :
    d.get? k = some v ↔ (k, v) ∈ d.entries := by
  constructor
  · intro found
    obtain ⟨e, hit, rfl⟩ := Option.map_eq_some_iff.1 found
    have key : e.1 = k := by simpa using List.find?_some hit
    exact key ▸ List.mem_of_find?_eq_some hit
  · intro member
    cases hit : d.entries.find? fun e => e.1 = k with
    | none => simpa using List.find?_eq_none.1 hit _ member
    | some e =>
        have key : e.1 = k := by simpa using List.find?_some hit
        have same : e = (k, v) := List.inj_on_of_nodup_map d.nodup
          (List.mem_of_find?_eq_some hit) member key
        simp [get?, hit, same]

theorem get?_eq_none {d : Dict κ ν} {k : κ} : d.get? k = none ↔ k ∉ d.keys := by
  rw [mem_keys, not_exists]
  simp only [← get?_eq_some]
  cases d.get? k <;> simp

theorem isSome_get? {d : Dict κ ν} {k : κ} : (d.get? k).isSome ↔ k ∈ d.keys := by
  rw [Option.isSome_iff_ne_none, Ne, get?_eq_none, not_not]

theorem mem_values {d : Dict κ ν} {v : ν} : v ∈ d.values ↔ ∃ k, d.get? k = some v := by
  simp only [values, List.mem_map, get?_eq_some]
  constructor
  · rintro ⟨⟨k, v'⟩, member, rfl⟩
    exact ⟨k, member⟩
  · rintro ⟨k, member⟩
    exact ⟨(k, v), member, rfl⟩

@[simp] theorem get?_empty (k : κ) : (empty : Dict κ ν).get? k = none := rfl

/-! ## Reading after an update -/

theorem mem_replace {k k' : κ} {v v' : ν} {entries : List (κ × ν)} :
    (k', v') ∈ replace k v entries ↔
      (k' = k ∧ v' = v ∧ ∃ old, (k, old) ∈ entries) ∨ (k' ≠ k ∧ (k', v') ∈ entries) := by
  simp only [replace, List.mem_map, Prod.exists]
  constructor
  · rintro ⟨a, b, member, same⟩
    by_cases key : a = k
    · simp only [key, if_true, Prod.mk.injEq] at same
      exact .inl ⟨same.1.symm, same.2.symm, b, key ▸ member⟩
    · simp only [key, if_false, Prod.mk.injEq] at same
      exact .inr ⟨same.1 ▸ key, same.1 ▸ same.2 ▸ member⟩
  · rintro (⟨rfl, rfl, old, member⟩ | ⟨key, member⟩)
    · exact ⟨k', old, member, by simp⟩
    · exact ⟨k', v', member, by simp [key]⟩

theorem mem_set {d : Dict κ ν} {k k' : κ} {v v' : ν} :
    (k', v') ∈ (d.set k v).entries ↔ (k' = k ∧ v' = v) ∨ (k' ≠ k ∧ (k', v') ∈ d.entries) := by
  unfold set
  split
  · rename_i present
    have old := mem_keys.1 present
    simp only [mem_replace]
    tauto
  · rename_i absent
    have fresh : (k', v') ∈ d.entries → k' ≠ k := fun member same =>
      absent (mem_keys.2 ⟨v', same ▸ member⟩)
    simp only [List.mem_append, List.mem_singleton, Prod.mk.injEq]
    tauto

theorem entries_set_absent {d : Dict κ ν} {k : κ} (v : ν) (absent : k ∉ d.keys) :
    (d.set k v).entries = d.entries ++ [(k, v)] := by
  simp [set, absent]

/-- A reading of the entries that takes the new value for the old one sees no change. -/
theorem map_set_present {α : Type} {d : Dict κ ν} {k : κ} {v : ν} {read : κ × ν → α}
    (present : k ∈ d.keys) (same : ∀ old, (k, old) ∈ d.entries → read (k, old) = read (k, v)) :
    (d.set k v).entries.map read = d.entries.map read := by
  simp only [set, present, dite_true, replace, List.map_map]
  refine List.map_congr_left fun ⟨k', old⟩ member => ?_
  by_cases key : k' = k
  · subst key
    simpa using (same old member).symm
  · simp [key]

theorem get?_set (d : Dict κ ν) (k k' : κ) (v : ν) :
    (d.set k v).get? k' = if k' = k then some v else d.get? k' := by
  ext v'
  rw [get?_eq_some, mem_set]
  split
  · rename_i same
    simp [same, eq_comm]
  · rename_i different
    simp [different, get?_eq_some]

@[simp] theorem get?_set_self (d : Dict κ ν) (k : κ) (v : ν) : (d.set k v).get? k = some v := by
  simp [get?_set]

theorem get?_set_ne (d : Dict κ ν) {k k' : κ} (v : ν) (different : k' ≠ k) :
    (d.set k v).get? k' = d.get? k' := by
  simp [get?_set, different]

theorem get?_setDefault (d : Dict κ ν) (k k' : κ) (v : ν) :
    (d.setDefault k v).get? k' = if k' = k then some ((d.get? k).getD v) else d.get? k' := by
  unfold setDefault
  split
  · rename_i present
    obtain ⟨old, held⟩ := Option.isSome_iff_exists.1 (isSome_get?.2 present)
    split
    · rename_i same
      simp [same, held]
    · rfl
  · rename_i absent
    rw [get?_set, get?_eq_none.2 absent]
    rfl

/-- What is told of the entries after an entry is set, unless there was one. -/
theorem map_get?_setDefault {α : Type} (f : ν → α) (d : Dict κ ν) (k k' : κ) (v : ν) :
    ((d.setDefault k v).get? k').map f =
      if k' = k then some (((d.get? k').map f).getD (f v)) else (d.get? k').map f := by
  rw [get?_setDefault]
  split
  · rename_i same
    rw [same, Option.map_some]
    cases d.get? k with
    | none => rfl
    | some old => rfl
  · rfl

theorem get?_erase (d : Dict κ ν) (k k' : κ) :
    (d.erase k).get? k' = if k' = k then none else d.get? k' := by
  ext v
  rw [get?_eq_some]
  simp only [erase, List.mem_filter]
  split
  · rename_i same
    simp [same]
  · rename_i different
    simp [different, get?_eq_some]

theorem get?_filter (keep : κ × ν → Bool) (d : Dict κ ν) (k : κ) :
    (d.filter keep).get? k = (d.get? k).filter fun v => keep (k, v) := by
  ext v
  rw [get?_eq_some, Option.filter_eq_some_iff, get?_eq_some]
  exact List.mem_filter

theorem mem_keys_set {d : Dict κ ν} {k k' : κ} {v : ν} :
    k' ∈ (d.set k v).keys ↔ k' = k ∨ k' ∈ d.keys := by
  rw [← isSome_get?, get?_set, ← isSome_get?]
  by_cases same : k' = k
  · simp [same]
  · simp [same]

/-- The keys after setting one entry for each element. -/
theorem mem_keys_foldl_set {α : Type} (key : α → κ) (value : α → ν) (xs : List α) (d : Dict κ ν)
    {k : κ} : k ∈ (xs.foldl (fun d x => d.set (key x) (value x)) d).keys ↔
      k ∈ d.keys ∨ ∃ x ∈ xs, key x = k := by
  induction xs generalizing d with
  | nil => simp
  | cons x xs ih =>
      rw [List.foldl_cons, ih, mem_keys_set]
      simp only [List.exists_mem_cons_iff, eq_comm (a := k)]
      tauto

/-- Of several entries with one key the last one is kept. -/
theorem get?_ofList (entries : List (κ × ν)) (k : κ) :
    (ofList entries).get? k = ((entries.filter fun e => e.1 = k).getLast?).map Prod.snd := by
  induction entries using List.reverseRecOn with
  | nil => rfl
  | append_singleton earlier e ih =>
      have set : ofList (earlier ++ [e]) = (ofList earlier).set e.1 e.2 := by
        simp [ofList, List.foldl_append]
      rw [set, get?_set, List.filter_append]
      by_cases same : e.1 = k
      · simp [same]
      · simp [same, Ne.symm same, ih]

theorem mem_of_mem_ofList {entries : List (κ × ν)} {k : κ} {v : ν}
    (member : (k, v) ∈ (ofList entries).entries) : (k, v) ∈ entries := by
  have found := get?_eq_some.2 member
  rw [get?_ofList] at found
  obtain ⟨e, last, rfl⟩ := Option.map_eq_some_iff.1 found
  obtain ⟨given, key⟩ := List.mem_filter.1 (List.mem_of_getLast? last)
  have same : e.1 = k := by simpa using key
  exact same ▸ given

/-- Entries with distinct keys are kept as they are. -/
theorem entries_ofList {entries : List (κ × ν)} (distinct : (entries.map Prod.fst).Nodup) :
    (ofList entries).entries = entries := by
  induction entries using List.reverseRecOn with
  | nil => rfl
  | append_singleton earlier e ih =>
      rw [List.map_append, List.map_singleton] at distinct
      obtain ⟨before, -, apart⟩ := List.nodup_append.1 distinct
      have kept := ih before
      have absent : e.1 ∉ (ofList earlier).keys := by
        rw [keys, kept]
        exact fun there => apart e.1 there e.1 (List.mem_singleton_self _) rfl
      have set : ofList (earlier ++ [e]) = (ofList earlier).set e.1 e.2 := by
        simp [ofList, List.foldl_append]
      rw [set, entries_set_absent _ absent, kept]

theorem get?_ofList_of_nodup {entries : List (κ × ν)} (distinct : (entries.map Prod.fst).Nodup)
    {k : κ} {v : ν} : (ofList entries).get? k = some v ↔ (k, v) ∈ entries := by
  rw [get?_eq_some, entries_ofList distinct]

/-! ## Taking one entry out -/

theorem mem_erase {d : Dict κ ν} {k : κ} {e : κ × ν} :
    e ∈ (d.erase k).entries ↔ e ∈ d.entries ∧ e.1 ≠ k := by
  simp [erase]

/-- An entry, and the others. -/
theorem entries_perm {d : Dict κ ν} {k : κ} {v : ν} (held : d.get? k = some v) :
    d.entries.Perm ((k, v) :: (d.erase k).entries) := by
  have apart : ((k, v) :: (d.erase k).entries).Nodup :=
    List.nodup_cons.2 ⟨fun member => (mem_erase.1 member).2 rfl, entries_nodup _⟩
  refine (List.perm_ext_iff_of_nodup (entries_nodup d) apart).2 ?_
  rintro ⟨k', v'⟩
  rw [List.mem_cons, mem_erase, Prod.mk.injEq, ← get?_eq_some]
  by_cases same : k' = k
  · subst same
    simp [held, eq_comm]
  · simp [same]

theorem erase_set (d : Dict κ ν) (k : κ) (v : ν) : ((d.set k v).erase k).entries.Perm (d.erase k).entries := by
  refine (List.perm_ext_iff_of_nodup (entries_nodup _) (entries_nodup _)).2 ?_
  rintro ⟨k', v'⟩
  rw [mem_erase, mem_erase, mem_set]
  tauto

theorem entries_set_perm (d : Dict κ ν) (k : κ) (v : ν) :
    (d.set k v).entries.Perm ((k, v) :: (d.erase k).entries) :=
  (entries_perm (get?_set_self d k v)).trans ((erase_set d k v).cons _)

theorem erase_absent {d : Dict κ ν} {k : κ} (absent : k ∉ d.keys) : (d.erase k).entries = d.entries := by
  refine List.filter_eq_self.2 fun e member => ?_
  have other : e.1 ≠ k := fun same => absent (List.mem_map.2 ⟨e, member, same⟩)
  simpa using other

/-! ## Lists under keys -/

variable {α : Type}

/-- All that is listed: what is listed under a key, and the rest. -/
theorem flatten_perm (d : Dict κ (List α)) (k : κ) :
    d.values.flatten.Perm ((d.get? k).getD [] ++ (d.erase k).values.flatten) := by
  cases held : d.get? k with
  | none =>
      have same : (d.erase k).values = d.values := congrArg (List.map Prod.snd) (erase_absent (get?_eq_none.1 held))
      rw [same]
      rfl
  | some xs => exact ((entries_perm held).map Prod.snd).flatten

theorem flatten_set_perm (d : Dict κ (List α)) (k : κ) (xs : List α) :
    (d.set k xs).values.flatten.Perm (xs ++ (d.erase k).values.flatten) :=
  ((entries_set_perm d k xs).map Prod.snd).flatten

/-- An empty list under a new key lists nothing. -/
theorem flatten_setDefault (d : Dict κ (List α)) (k : κ) :
    (d.setDefault k []).values.flatten = d.values.flatten := by
  unfold setDefault
  split
  · rfl
  · rename_i absent
    simp [values, entries_set_absent [] absent]

/-- Append to the list under a key. -/
def push (d : Dict κ (List α)) (k : κ) (x : α) : Dict κ (List α) :=
  d.set k ((d.get? k).getD [] ++ [x])

theorem getD_push (d : Dict κ (List α)) (k k' : κ) (x : α) :
    ((d.push k x).get? k').getD [] = (d.get? k').getD [] ++ if k = k' then [x] else [] := by
  unfold push
  by_cases same : k = k'
  · subst same
    simp
  · simp [get?_set_ne d _ (Ne.symm same), same]

theorem push_flatten (d : Dict κ (List α)) (k : κ) (x : α) :
    (d.push k x).values.flatten.Perm (d.values.flatten ++ [x]) := by
  refine (flatten_set_perm d k _).trans ?_
  rw [List.append_assoc]
  refine (List.perm_append_comm.append_left _).trans ?_
  rw [← List.append_assoc]
  exact (flatten_perm d k).symm.append_right [x]

/-- The elements of a list, each under its key. -/
def groups {β : Type} (key : β → κ) (value : β → α) (xs : List β) : Dict κ (List α) :=
  xs.foldl (fun d x => d.push (key x) (value x)) empty

section Groups

variable {β : Type} {key : β → κ} {value : β → α}

theorem groups_snoc (xs : List β) (x : β) :
    groups key value (xs ++ [x]) = (groups key value xs).push (key x) (value x) := by
  rw [groups, List.foldl_append]
  rfl

/-- A group has the elements with its key. -/
theorem getD_groups (xs : List β) (k : κ) :
    ((groups key value xs).get? k).getD [] = (xs.filter fun x => key x = k).map value := by
  induction xs using List.reverseRecOn with
  | nil => rfl
  | append_singleton xs x ih =>
      rw [groups_snoc, getD_push, ih, List.filter_append, List.map_append]
      by_cases same : key x = k
      · simp [same]
      · simp [same]

theorem mem_keys_groups {xs : List β} {k : κ} :
    k ∈ (groups key value xs).keys ↔ ∃ x ∈ xs, key x = k := by
  induction xs using List.reverseRecOn with
  | nil => simp [groups, keys, empty]
  | append_singleton xs x ih =>
      rw [groups_snoc, push, mem_keys_set, ih]
      simp only [List.mem_append, List.mem_singleton, or_and_right, exists_or, exists_eq_left,
        eq_comm (a := k)]
      exact or_comm

/-- No group is empty, and each has the elements with its key. -/
theorem mem_groups {xs : List β} {k : κ} {ys : List α}
    (group : (k, ys) ∈ (groups key value xs).entries) :
    ys = (xs.filter fun x => key x = k).map value ∧ ys ≠ [] := by
  have held := get?_eq_some.2 group
  have whole : ((groups key value xs).get? k).getD [] = _ := getD_groups xs k
  rw [held] at whole
  refine ⟨whole, ?_⟩
  obtain ⟨x, member, own⟩ := mem_keys_groups.1 (mem_keys.2 ⟨ys, group⟩)
  intro none
  have here : value x ∈ ys := by
    rw [show ys = _ from whole]
    exact List.mem_map_of_mem (List.mem_filter.2 ⟨member, by simpa using own⟩)
  rw [none] at here
  cases here

/-- The groups have every element, and each once. -/
theorem groups_flatten (xs : List β) : (groups key value xs).values.flatten.Perm (xs.map value) := by
  induction xs using List.reverseRecOn with
  | nil => exact .nil
  | append_singleton xs x ih =>
      rw [groups_snoc, List.map_append]
      exact (push_flatten _ _ _).trans (ih.append_right _)

end Groups

end Dict

end AlgoTrader.Theory
