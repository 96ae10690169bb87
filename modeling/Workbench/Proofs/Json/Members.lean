import Mathlib.Data.List.Nodup
import Workbench.Json.Value

/-!
# Members put over others

The members of one object put over those of another, one after the other: of a name that both have
the upper value counts, at the place of the lower one. Restricted to some of the names it is the
same with the restricted members.
-/
namespace Workbench.Json.Members

variable {name other : String} {v : Value} {ms high low : Members}

theorem nodup_put (h : (ms.map Prod.fst).Nodup) : ((ms.put name v).map Prod.fst).Nodup := by
  rw [map_fst_put]
  split
  · exact h
  case isFalse hname => simpa using h.concat hname

theorem get?_put_of_ne (h : other ≠ name) (v : Value) (ms : Members) :
    (ms.put name v).get? other = ms.get? other := by
  induction ms with
  | nil => simp [put, get?, h.symm]
  | cons m ms ih =>
    obtain ⟨k, w⟩ := m
    unfold put
    split
    case isTrue heq => simp [get?, heq, h.symm]
    case isFalse => simp only [get?, ih]

theorem get?_eq_find? (name : String) (ms : Members) :
    ms.get? name = (ms.find? (·.1 = name)).map Prod.snd := by
  induction ms with
  | nil => rfl
  | cons m ms ih =>
    obtain ⟨k, w⟩ := m
    by_cases h : k = name <;> simp [get?, h, ih]

theorem get?_eq_none_iff : ms.get? name = none ↔ name ∉ ms.map Prod.fst := by
  rw [get?_eq_find?, Option.map_eq_none_iff, List.find?_eq_none]
  simp only [decide_eq_true_eq, List.mem_map, not_exists, not_and]

theorem put_of_not_mem (h : name ∉ ms.map Prod.fst) : ms.put name v = ms ++ [(name, v)] := by
  induction ms with
  | nil => rfl
  | cons m ms ih =>
    obtain ⟨k, w⟩ := m
    simp only [List.map_cons, List.mem_cons, not_or] at h
    rw [put, if_neg fun heq => h.1 heq.symm, ih h.2, List.cons_append]

/-! ## Restricted to some names -/

variable {p : String → Bool}

/-- The members whose names meet a condition. -/
def restrict (p : String → Bool) (ms : Members) : Members := ms.filter fun m => p m.1

theorem restrict_put (p : String → Bool) (name : String) (v : Value) (ms : Members) :
    (ms.put name v).restrict p = if p name then (ms.restrict p).put name v else ms.restrict p := by
  induction ms with
  | nil => by_cases h : p name <;> simp [put, restrict, h]
  | cons m ms ih =>
    obtain ⟨k, w⟩ := m
    unfold restrict at ih ⊢
    by_cases hk : k = name
    · subst hk
      by_cases h : p k <;> simp [put, h]
    · by_cases h : p name <;> by_cases hpk : p k <;> simp_all [put]

theorem get?_restrict (h : p name) : (ms.restrict p).get? name = ms.get? name := by
  rw [get?_eq_find?, get?_eq_find?, restrict, List.find?_filter]
  congr 2
  funext m
  by_cases hm : m.1 = name <;> simp [hm, h]

theorem nodup_restrict (h : (ms.map Prod.fst).Nodup) : ((ms.restrict p).map Prod.fst).Nodup :=
  h.sublist (List.filter_sublist.map _)

/-! ## One object over another -/

/-- The members of an object over those of another one. -/
def putOver (high low : Members) : Members := high.foldl (fun ms m => ms.put m.1 m.2) low

@[simp] theorem putOver_nil (low : Members) : putOver [] low = low := rfl

@[simp] theorem putOver_cons (m : String × Value) (high low : Members) :
    putOver (m :: high) low = putOver high (low.put m.1 m.2) := rfl

theorem putOver_empty (h : (high.map Prod.fst).Nodup) : high.putOver [] = high := by
  suffices hsuffix : ∀ low : Members, ((low ++ high).map Prod.fst).Nodup →
      high.putOver low = low ++ high by
    simpa using hsuffix [] (by simpa using h)
  intro low hnodup
  clear h
  induction high generalizing low with
  | nil => simp
  | cons m high ih =>
    have hm : m.1 ∉ low.map Prod.fst := by
      rw [List.map_append, List.nodup_append] at hnodup
      exact fun hmem => hnodup.2.2 _ hmem m.1 (by simp) rfl
    rw [putOver_cons, put_of_not_mem hm, ih _ (by simpa using hnodup), List.append_assoc,
      List.singleton_append]

/-- The upper value of a name counts. -/
theorem get?_putOver (h : (high.map Prod.fst).Nodup) (name : String) (low : Members) :
    (high.putOver low).get? name = (high.get? name).or (low.get? name) := by
  induction high generalizing low with
  | nil => rfl
  | cons m high ih =>
    obtain ⟨k, w⟩ := m
    rw [List.map_cons, List.nodup_cons] at h
    rw [putOver_cons, ih h.2]
    by_cases hk : k = name
    · subst hk
      rw [get?_eq_none_iff.mpr h.1, get?_put, get?]
      simp
    · rw [get?_put_of_ne (Ne.symm hk), get?, if_neg hk]

theorem restrict_putOver (p : String → Bool) (high low : Members) :
    (high.putOver low).restrict p = (high.restrict p).putOver (low.restrict p) := by
  induction high generalizing low with
  | nil => rfl
  | cons m high ih =>
    rw [putOver_cons, ih, restrict_put]
    by_cases h : p m.1 <;> simp [restrict, h]

/-- The first name is the first one of the lower object, if that has any. -/
theorem head?_putOver (high low : Members) :
    (high.putOver low).head?.map Prod.fst = (low.head?.map Prod.fst).or (high.head?.map Prod.fst) := by
  induction high generalizing low with
  | nil => simp
  | cons m high ih =>
    rw [putOver_cons, ih]
    cases low with
    | nil => simp [put]
    | cons n low =>
      by_cases h : n.1 = m.1 <;> simp [put, h]

end Workbench.Json.Members
