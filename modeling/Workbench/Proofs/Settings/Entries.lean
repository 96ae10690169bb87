import Mathlib.Data.List.Find
import Mathlib.Data.List.Induction
import Workbench.Proofs.Settings.Layer

/-!
# Merging, member by member

The mappings of the connection as objects whose members are told by the names that are texts.
Merging two mappings is then putting the members of the one over those of the other.
-/
namespace Workbench.Settings

open Json (Members Value)
open Workbench.Tree (Node)

variable {name : String} {es low high : Entries}

/-! ## Names and their values -/

section Tables

variable {α : Type} {names : List String} {value : String → Option α}

theorem lookup_cons_eq (name key : String) (v : α) (rest : List (String × α)) :
    List.lookup name ((key, v) :: rest) = if name = key then some v else rest.lookup name := by
  by_cases h : name = key
  · simp [h]
  · rw [List.lookup_cons, beq_false_of_ne h, if_neg h]

theorem get?_eq_lookup (name : String) (ms : Members) : ms.get? name = ms.lookup name := by
  induction ms with
  | nil => rfl
  | cons m ms ih =>
    obtain ⟨k, v⟩ := m
    simp only [Members.get?, lookup_cons_eq, ih, eq_comm]

/-- A table of the values of some names holds the value of each of them, and no other. -/
theorem lookup_table (names : List String) (value : String → Option α) (name : String) :
    (names.filterMap fun n => (value n).map fun v => (n, v)).lookup name =
      if name ∈ names then value name else none := by
  induction names with
  | nil => rfl
  | cons n names ih =>
    by_cases h : n = name
    · subst h
      cases hv : value n with
      | none => simp [hv, ih]
      | some v => simp [hv]
    · cases hv : value n <;> simp [hv, ih, lookup_cons_eq, Ne.symm h]

theorem nodup_table (h : names.Nodup) :
    ((names.filterMap fun n => (value n).map fun v => (n, v)).map Prod.fst).Nodup := by
  refine h.sublist ?_
  induction names with
  | nil => exact List.Sublist.slnil
  | cons n names ih =>
    obtain ⟨-, h⟩ := List.nodup_cons.mp h
    cases hv : value n with
    | none => simpa [List.filterMap_cons, hv] using (ih h).cons n
    | some v => simpa [List.filterMap_cons, hv] using ih h

theorem firstOf?_eq_find? (name : String) (given : List (String × α)) :
    firstOf? name given = (given.find? fun g => Text.sameAsciiCase name g.1).map Prod.snd := by
  rw [firstOf?, spellings, List.head?_filter]

/-- Values under known names are a table of their first spellings. -/
theorem firstSpelled_eq_table (known : List String) (given : List (String × α)) :
    firstSpelled known given =
      known.filterMap fun name => (firstOf? name given).map fun v => (name, v) := by
  unfold firstSpelled
  simp only [firstOf?_eq_find?, Option.map_map]
  rfl

theorem lookup_firstSpelled (known : List String) (given : List (String × α)) (name : String) :
    (firstSpelled known given).lookup name =
      if name ∈ known then firstOf? name given else none := by
  rw [firstSpelled_eq_table, lookup_table known (firstOf? · given) name]

theorem firstOf?_map {β : Type} (f : α → β) (name : String) (given : List (String × α)) :
    firstOf? name (given.map fun (n, v) => (n, f v)) = (firstOf? name given).map f := by
  rw [firstOf?_eq_find?, firstOf?_eq_find?, List.find?_map, Option.map_map, Option.map_map]
  rfl

theorem lookup_map {β : Type} (f : α → β) (name : String) (given : List (String × α)) :
    (given.map fun (n, v) => (n, f v)).lookup name = (given.lookup name).map f := by
  induction given with
  | nil => rfl
  | cons g given ih =>
    obtain ⟨k, v⟩ := g
    rw [List.map_cons, lookup_cons_eq, lookup_cons_eq, ih]
    split <;> rfl

end Tables

/-! ## Mappings as objects -/

theorem sameKey_string {key : Node} :
    Node.sameKey key (.string name) = true ↔ key = .string name := by
  cases key <;> simp [Node.sameKey, Node.sameInt, Node.asInt?]

namespace Entries

theorem areNamed_nil : AreNamed [] := fun _ he => absurd he List.not_mem_nil

@[simp] theorem members_nil : members [] = [] := rfl

@[simp] theorem members_cons_string (name : String) (v : Node) (es : Entries) :
    members ((.string name, v) :: es) = (name, plainValue v) :: members es := rfl

theorem areNamed_cons {e : Node × Node} :
    AreNamed (e :: es) ↔ (∃ name, e.1 = .string name) ∧ AreNamed es := List.forall_mem_cons

theorem members_cons_of_ne {key : Node} (h : ∀ name, key ≠ .string name) (v : Node) (es : Entries) :
    members ((key, v) :: es) = members es := by
  cases key <;> first | rfl | exact absurd rfl (h _)

/-- Setting an entry sets the member. -/
theorem members_putEntry (name : String) (v : Node) (es : Entries) :
    members (Node.putEntry (.string name) v es) = (members es).put name (plainValue v) := by
  induction es with
  | nil => rfl
  | cons e es ih =>
    obtain ⟨key, w⟩ := e
    unfold Node.putEntry
    by_cases hkey : ∃ other, key = .string other
    · obtain ⟨other, rfl⟩ := hkey
      by_cases h : other = name <;> simp [sameKey_string, Members.put, h, ih]
    · have hne : ∀ other, key ≠ .string other := fun other h => hkey ⟨other, h⟩
      rw [if_neg fun h => hne _ (sameKey_string.mp h), members_cons_of_ne hne,
        members_cons_of_ne hne, ih]

theorem areNamed_putEntry (name : String) (v : Node) (es : Entries) :
    AreNamed (Node.putEntry (.string name) v es) ↔ AreNamed es := by
  induction es with
  | nil => simp [Node.putEntry, AreNamed]
  | cons e es ih =>
    unfold Node.putEntry
    split
    · rw [areNamed_cons, areNamed_cons]
    · rw [areNamed_cons, areNamed_cons, ih]

/-- The member under a name is the entry under the text. -/
theorem get?_members (name : String) (es : Entries) :
    (members es).get? name = (es.get? (.string name)).map plainValue := by
  induction es with
  | nil => rfl
  | cons e es ih =>
    obtain ⟨key, w⟩ := e
    unfold get? at ih ⊢
    rw [List.find?_cons]
    by_cases hkey : ∃ other, key = .string other
    · obtain ⟨other, rfl⟩ := hkey
      have hkey : Node.sameKey (.string other) (.string name) = (other == name) := rfl
      rw [members_cons_string, Members.get?, hkey]
      by_cases h : other = name
      · simp [h]
      · rw [if_neg h, ih, beq_false_of_ne h]
    · have hne : ∀ other, key ≠ .string other := fun other h => hkey ⟨other, h⟩
      have hfalse : Node.sameKey key (.string name) = false :=
        Bool.eq_false_iff.mpr fun h => hne _ (sameKey_string.mp h)
      rw [members_cons_of_ne hne, ih, hfalse]

end Entries

/-! ## Merging -/

theorem plainValue_overlay (low v : Node) : plainValue (overlay low v) = plainValue v := by
  cases v with
  | mapping es => cases low <;> simp [overlay, plainValue]
  | _ => simp [overlay, plainValue]

/-- Merging puts the upper members over the lower ones. -/
theorem members_overlayEntries (h : high.AreNamed) (low : Entries) :
    (Entries.members (overlayEntries low high)) = high.members.putOver low.members := by
  induction high generalizing low with
  | nil => simp [overlayEntries]
  | cons e high ih =>
    obtain ⟨key, v⟩ := e
    obtain ⟨⟨name, rfl⟩, hrest⟩ := Entries.areNamed_cons.mp h
    rw [overlayEntries, ih hrest, Entries.members_putEntry, Entries.members_cons_string,
      Members.putOver_cons]
    congr 2
    split <;> simp [plainValue_overlay]

theorem areNamed_overlayEntries (h : high.AreNamed) (low : Entries) :
    Entries.AreNamed (overlayEntries low high) ↔ low.AreNamed := by
  induction high generalizing low with
  | nil => simp [overlayEntries]
  | cons e high ih =>
    obtain ⟨key, v⟩ := e
    obtain ⟨⟨name, rfl⟩, hrest⟩ := Entries.areNamed_cons.mp h
    rw [overlayEntries, ih hrest, Entries.areNamed_putEntry]

/-! ## Names of fields -/

/-- The members have names of their own. -/
theorem sameAsciiCase_names {n m : String} (hn : n ∈ ServiceSettings.names)
    (hm : m ∈ ServiceSettings.names) : Text.sameAsciiCase n m = (n == m) := by
  have h : ∀ n ∈ ServiceSettings.names, ∀ m ∈ ServiceSettings.names,
      Text.sameAsciiCase n m = (n == m) := by decide
  exact h n hn m hm

/-- A name is respelled as the member that it is a spelling of. -/
theorem respell_of_sameAsciiCase {n name : String} (hn : n ∈ ServiceSettings.names)
    (h : Text.sameAsciiCase n name = true) : respell ServiceSettings.names name = n := by
  have hfind : ServiceSettings.names.find? (Text.sameAsciiCase name) =
      ServiceSettings.names.find? (n == ·) :=
    List.find?_congr fun m hm => by rw [← Text.sameAsciiCase_congr h, sameAsciiCase_names hn hm]
  have hself : ∀ n ∈ ServiceSettings.names, ServiceSettings.names.find? (n == ·) = some n := by
    decide
  rw [respell, hfind, hself n hn, Option.getD_some]

theorem sameAsciiCase_respell (n name : String) :
    Text.sameAsciiCase n (respell ServiceSettings.names name) = Text.sameAsciiCase n name := by
  cases hfind : ServiceSettings.names.find? (Text.sameAsciiCase name) with
  | none => rw [respell, hfind, Option.getD_none]
  | some m =>
    have hm : Text.sameAsciiCase name m = true := List.find?_some hfind
    rw [respell, hfind, Option.getD_some, Text.sameAsciiCase_comm n m,
      Text.sameAsciiCase_comm n name, Text.sameAsciiCase_congr hm]

section Respelled

variable {n : String}

theorem respelled_append (known : List String) (es : Entries) (name : String) (v : Node) :
    respelled known (es ++ [(.string name, v)]) =
      Node.putEntry (.string (respell known name)) v (respelled known es) := by
  simp [respelled]

theorem areNamed_append {e : Node × Node} :
    Entries.AreNamed (es ++ [e]) ↔ es.AreNamed ∧ ∃ name, e.1 = .string name := by
  simp [Entries.AreNamed, or_imp, forall_and]

theorem members_append (es : Entries) (name : String) (v : Node) :
    Entries.members (es ++ [(.string name, v)]) = es.members ++ [(name, plainValue v)] := by
  simp [Entries.members, Entries.texts]

theorem spellings_append {α : Type} (name : String) (given : List (String × α)) (g : String × α) :
    spellings name (given ++ [g]) =
      if Text.sameAsciiCase name g.1 then spellings name given ++ [g]
      else spellings name given := by
  by_cases h : Text.sameAsciiCase name g.1 = true <;> simp [spellings, h]

/-- The last spelling counts. -/
theorem lastOf?_append {α : Type} (name : String) (given : List (String × α)) (g : String × α) :
    lastOf? name (given ++ [g]) =
      if Text.sameAsciiCase name g.1 then some g.2 else lastOf? name given := by
  rw [lastOf?, spellings_append]
  split
  · simp
  · rfl

/-- Of a member that is respelled there is one spelling, with the last of the values. -/
theorem spellings_respelled (h : es.AreNamed) (hn : n ∈ ServiceSettings.names) :
    spellings n (respelled ServiceSettings.names es).members =
      ((lastOf? n es.members).map fun v => (n, v)).toList := by
  induction es using List.reverseRecOn with
  | nil => rfl
  | append_singleton es e ih =>
    obtain ⟨key, v⟩ := e
    obtain ⟨hes, name, rfl⟩ := areNamed_append.mp h
    have hput := Members.restrict_put (Text.sameAsciiCase n) (respell ServiceSettings.names name)
      (plainValue v) (respelled ServiceSettings.names es).members
    rw [sameAsciiCase_respell] at hput
    rw [respelled_append, Entries.members_putEntry, members_append, lastOf?_append]
    refine hput.trans ?_
    split
    case isTrue hname =>
      change Members.put _ _ (spellings n _) = _
      rw [ih hes, respell_of_sameAsciiCase hn hname]
      cases lastOf? n (Entries.members es) <;> simp [Members.put]
    case isFalse => exact ih hes

theorem areNamed_respelled (known : List String) (h : es.AreNamed) :
    (respelled known es).AreNamed := by
  induction es using List.reverseRecOn with
  | nil => exact h
  | append_singleton es e ih =>
    obtain ⟨key, v⟩ := e
    obtain ⟨hes, name, rfl⟩ := areNamed_append.mp h
    rw [respelled_append, Entries.areNamed_putEntry]
    exact ih hes

theorem nodup_respelled (known : List String) (h : es.AreNamed) :
    ((respelled known es).members.map Prod.fst).Nodup := by
  induction es using List.reverseRecOn with
  | nil => exact List.nodup_nil
  | append_singleton es e ih =>
    obtain ⟨key, v⟩ := e
    obtain ⟨hes, name, rfl⟩ := areNamed_append.mp h
    rw [respelled_append, Entries.members_putEntry]
    exact Members.nodup_put (ih hes)

end Respelled

/-! ## Names that are not texts -/

section Naming

variable {ε : Type} {fault : ε} {f : Node × Node → Except ε (String × Node)}

/-- Going by names that are texts, and failing at any other one. -/
theorem mapM_eq (htext : ∀ name v, f (.string name, v) = .ok (name, v))
    (hother : ∀ key v, (∀ name, key ≠ .string name) → f (key, v) = .error fault) (es : Entries) :
    (es.AreNamed ∧ es.mapM f = .ok es.texts) ∨ (¬ es.AreNamed ∧ es.mapM f = .error fault) := by
  induction es with
  | nil => exact .inl ⟨Entries.areNamed_nil, rfl⟩
  | cons e es ih =>
    obtain ⟨key, v⟩ := e
    rw [Entries.areNamed_cons]
    by_cases hkey : ∃ name, key = .string name
    · obtain ⟨name, rfl⟩ := hkey
      rw [List.mapM_cons, htext]
      refine ih.imp (fun h => ⟨⟨⟨name, rfl⟩, h.1⟩, ?_⟩) (fun h => ⟨fun hall => h.1 hall.2, ?_⟩)
      · rw [h.2]
        rfl
      · rw [h.2]
        rfl
    · refine .inr ⟨fun h => hkey h.1, ?_⟩
      rw [List.mapM_cons, hother key v fun name h => hkey ⟨name, h⟩]
      rfl

end Naming

theorem namedMembers_eq (es : Entries) :
    (es.AreNamed ∧ namedMembers es = .ok es.texts) ∨
      (¬ es.AreNamed ∧ namedMembers es = .error .unnamedMember) := by
  refine mapM_eq (fun _ _ => rfl) (fun key v h => ?_) es
  cases key <;> first | rfl | exact absurd rfl (h _)

theorem mapM_nameOf_eq (es : Entries) :
    (es.AreNamed ∧ es.mapM nameOf = .ok es.texts) ∨
      (¬ es.AreNamed ∧ es.mapM nameOf = .error .unnamed) := by
  refine mapM_eq (fun _ _ => rfl) (fun key v h => ?_) es
  cases key <;> first | rfl | exact absurd rfl (h _)

end Workbench.Settings
