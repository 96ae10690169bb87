import Workbench.Proofs.Settings.Entries

/-!
# What variables give

Variables are known by their names in lower case, the later of two spellings. What they give for the
settings is what the variables of the single settings hold, and for the connection what the object
in its variable and the variables of its members come to.
-/
namespace Workbench.Settings

open Json (Members Value)
open Workbench.Tree (Node)

variable {vars : Dotenv.Variables} {name : String} {es : Entries}

/-! ## Names in lower case -/

theorem lookup_put (name key : String) (text : Option String) (vars : Dotenv.Variables) :
    (Dotenv.put key text vars).lookup name =
      if name = key then some text else vars.lookup name := by
  induction vars with
  | nil => simp [Dotenv.put, lookup_cons_eq]
  | cons v vars ih =>
    obtain ⟨k, t⟩ := v
    unfold Dotenv.put
    split
    case isTrue hk => by_cases h : name = key <;> simp [lookup_cons_eq, h, hk]
    case isFalse hk =>
      rw [lookup_cons_eq, lookup_cons_eq, ih]
      by_cases h : name = k
      · rw [if_pos h, if_pos h, if_neg fun heq => hk (h.symm.trans heq)]
      · rw [if_neg h, if_neg h]

theorem map_fst_put (key : String) (text : Option String) (vars : Dotenv.Variables) :
    (Dotenv.put key text vars).map Prod.fst =
      if key ∈ vars.map Prod.fst then vars.map Prod.fst else vars.map Prod.fst ++ [key] := by
  induction vars with
  | nil => simp [Dotenv.put]
  | cons v vars ih =>
    obtain ⟨k, t⟩ := v
    unfold Dotenv.put
    split
    case isTrue hk => simp [hk]
    case isFalse hk =>
      have hk' : ¬ key = k := fun h => hk h.symm
      simp only [List.map_cons, ih, List.mem_cons, hk', false_or]
      split <;> rfl

theorem lowerNames_append (vars : Dotenv.Variables) (v : String × Option String) :
    lowerNames (vars ++ [v]) = Dotenv.put (v.1.map Char.toLower) v.2 (lowerNames vars) := by
  simp [lowerNames]

/-- The value of a name in lower case is that of the last of its spellings. -/
theorem lookup_lowerNames (h : Text.IsLower name) (vars : Dotenv.Variables) :
    (lowerNames vars).lookup name = lastOf? name vars := by
  induction vars using List.reverseRecOn with
  | nil => rfl
  | append_singleton vars v ih =>
    rw [lowerNames_append, lookup_put, lastOf?_append, ih]
    simp only [eq_comm (a := name), Text.map_toLower_eq_iff h]

theorem nodup_lowerNames (vars : Dotenv.Variables) : ((lowerNames vars).map Prod.fst).Nodup := by
  induction vars using List.reverseRecOn with
  | nil => exact List.nodup_nil
  | append_singleton vars v ih =>
    rw [lowerNames_append, map_fst_put]
    split
    · exact ih
    case isFalse h => simpa using ih.concat h

theorem mem_lowerNames (vars : Dotenv.Variables) (name : String) :
    name ∈ (lowerNames vars).map Prod.fst ↔ ∃ v ∈ vars, v.1.map Char.toLower = name := by
  induction vars using List.reverseRecOn with
  | nil => simp [lowerNames]
  | append_singleton vars v ih =>
    have hput : ∀ names : List String,
        name ∈ (if v.1.map Char.toLower ∈ names then names else names ++ [v.1.map Char.toLower]) ↔
          name ∈ names ∨ v.1.map Char.toLower = name := by
      intro names
      split
      case isTrue h => exact ⟨.inl, fun hname => hname.elim id fun heq => heq ▸ h⟩
      case isFalse => simp [eq_comm]
    rw [lowerNames_append, map_fst_put, hput, ih]
    simp [or_and_right, exists_or]

theorem isLower_of_mem_lowerNames {v : String × Option String} (h : v ∈ lowerNames vars) :
    Text.IsLower v.1 := by
  obtain ⟨w, -, hw⟩ := (mem_lowerNames vars v.1).mp (List.mem_map_of_mem h)
  exact hw ▸ Text.isLower_map w.1

theorem isLower_namePrefix : Text.IsLower namePrefix := by decide

/-- A variable of the settings has the value of the last of its spellings. -/
theorem valueOf?_lowerNames (h : Text.IsLower name) (vars : Dotenv.Variables) :
    valueOf? (lowerNames vars) name = textOf? name vars := by
  rw [valueOf?, textOf?, lookup_lowerNames (isLower_namePrefix.append h)]

/-! ## Paths -/

section Paths

variable {cs : List Char} {m : String}

theorem pathOf_cases (cs : List Char) : ∃ name, (pathOf cs = [name] ∧ cs = name) ∨
    ∃ rest, pathOf cs = name :: pathOf rest ∧ cs = name ++ '_' :: '_' :: rest := by
  fun_induction pathOf cs with
  | case1 rest ih => exact ⟨[], .inr ⟨rest, rfl, rfl⟩⟩
  | case2 c rest hnot hnil ih => obtain ⟨name, ⟨h, -⟩ | ⟨_, h, -⟩⟩ := ih <;> simp [hnil] at h
  | case3 c rest hnot name path hpath ih =>
    obtain ⟨p, ⟨h, hrest⟩ | ⟨after, h, hrest⟩⟩ := ih
    · obtain ⟨rfl, rfl⟩ := List.cons.inj (hpath.symm.trans h)
      exact ⟨c :: name, .inl ⟨rfl, congrArg _ hrest⟩⟩
    · obtain ⟨rfl, rfl⟩ := List.cons.inj (hpath.symm.trans h)
      exact ⟨c :: name, .inr ⟨after, rfl, congrArg _ hrest⟩⟩
  | case4 => exact ⟨[], .inl ⟨rfl, rfl⟩⟩

theorem pathOf_ne_nil (cs : List Char) : pathOf cs ≠ [] := by
  obtain ⟨name, ⟨h, -⟩ | ⟨_, h, -⟩⟩ := pathOf_cases cs <;> simp [h]

/-- The path is a member alone for its own name only. -/
theorem pathOf_eq_single_iff (hm : m ∈ ServiceSettings.names) :
    pathOf cs = [m.toList] ↔ cs = m.toList := by
  have hself : ∀ m ∈ ServiceSettings.names, pathOf m.toList = [m.toList] := by decide
  constructor
  · intro h
    obtain ⟨name, ⟨hpath, hcs⟩ | ⟨rest, hpath, -⟩⟩ := pathOf_cases cs
    · rw [hcs]
      simpa [hpath] using h
    · simp [hpath, pathOf_ne_nil] at h
  · rintro rfl
    exact hself m hm

/-- The path leads into a member for the names with its name and two underscores in front. -/
theorem pathOf_eq_cons_iff (hm : m ∈ ServiceSettings.names) :
    (∃ name path, pathOf cs = m.toList :: name :: path) ↔ (m.toList ++ ['_', '_']) <+: cs := by
  have hinside : ∀ rest, pathOf (m.toList ++ '_' :: '_' :: rest) = m.toList :: pathOf rest := by
    intro rest
    simp only [ServiceSettings.names, List.mem_cons, List.not_mem_nil, or_false] at hm
    obtain rfl | rfl := hm <;> rfl
  constructor
  · rintro ⟨name, path, h⟩
    obtain ⟨p, ⟨hpath, -⟩ | ⟨rest, hpath, hcs⟩⟩ := pathOf_cases cs
    · simp [hpath] at h
    · obtain ⟨rfl, -⟩ := List.cons.inj (hpath.symm.trans h)
      exact ⟨rest, by simp [hcs]⟩
  · rintro ⟨rest, rfl⟩
    obtain ⟨name, path, hrest⟩ := List.exists_cons_of_ne_nil (pathOf_ne_nil rest)
    exact ⟨name, path, by rw [List.append_assoc, List.cons_append, List.cons_append,
      List.nil_append, hinside, hrest]⟩

end Paths

/-! ## Variables of members -/

section Assigning

variable {m : String} {v : Node} {key : String} {text : Option String}

/-- Setting at a path concerns no member but the first of the path. -/
theorem assign_cases (v : Node) (key : String) (path : List String) (es : Entries) :
    (∃ w, assign v (key :: path) es = Node.putEntry (.string key) w es) ∨
      assign v (key :: path) es = es := by
  cases path with
  | nil => exact .inl ⟨v, rfl⟩
  | cons name path =>
    rw [assign]
    · split
      · exact .inl ⟨_, rfl⟩
      · exact .inr rfl
      · exact .inl ⟨_, rfl⟩
    · simp

theorem get?_assign_of_ne (h : m ≠ key) (v : Node) (path : List String) (es : Entries) :
    Members.get? m (Entries.members (assign v (key :: path) es)) = es.members.get? m := by
  obtain ⟨w, hw⟩ | hw := assign_cases v key path es
  · rw [hw, Entries.members_putEntry, Members.get?_put_of_ne h]
  · rw [hw]

/-- Setting inside a member makes it a collection, if it has no value yet. -/
theorem get?_assign_inside (v : Node) (key name : String) (path : List String) (es : Entries) :
    Members.get? key (Entries.members (assign v (key :: name :: path) es)) =
      (es.members.get? key).or (some (.array [])) := by
  rw [Entries.get?_members key es, assign]
  · split
    case h_1 inner h => rw [Entries.members_putEntry, Members.get?_put, h]; rfl
    case h_2 w hw h => rw [Entries.get?_members, h]; rfl
    case h_3 h => rw [Entries.members_putEntry, Members.get?_put, h]; rfl
  · simp

/-- What a variable makes of a member. -/
theorem get?_assignMember (hm : m ∈ ServiceSettings.names) (es : Entries) (name : String)
    (text : Option String) :
    Members.get? m (Entries.members (assignMember es name text)) =
      if name = memberPrefix ++ m then some (text.elim .null .string)
      else (es.members.get? m).or
        (if (memberPrefix ++ m ++ "__").toList.isPrefixOf name.toList then some (.array [])
          else none) := by
  have hplain : plainValue (text.elim .null .string) = text.elim .null .string := by
    cases text <;> rfl
  have hinside : (memberPrefix ++ m ++ "__").toList =
      memberPrefix.toList ++ (m.toList ++ ['_', '_']) := by
    simp only [String.toList_append, List.append_assoc]
    rfl
  unfold assignMember
  split
  case isTrue h =>
    obtain ⟨cs, hcs⟩ := List.isPrefixOf_iff_prefix.mp h
    have hdrop : name.toList.drop memberPrefix.length = cs := by
      rw [← hcs, ← String.length_toList, List.drop_left]
    have hself : name = memberPrefix ++ m ↔ pathOf cs = [m.toList] := by
      rw [pathOf_eq_single_iff hm, ← String.toList_inj, String.toList_append, ← hcs,
        List.append_cancel_left_eq]
    have hfront : (memberPrefix ++ m ++ "__").toList.isPrefixOf name.toList = true ↔
        ∃ name path, pathOf cs = m.toList :: name :: path := by
      rw [pathOf_eq_cons_iff hm, List.isPrefixOf_iff_prefix, ← hcs, hinside,
        List.prefix_append_right_inj]
    obtain ⟨p, path, hpath⟩ := List.exists_cons_of_ne_nil (pathOf_ne_nil cs)
    rw [hpath] at hself hfront
    rw [hdrop, hpath]
    by_cases hp : p = m.toList
    · subst hp
      cases path with
      | nil =>
        rw [if_pos (hself.mpr rfl)]
        simp only [List.map_cons, List.map_nil, String.ofList_toList, assign]
        rw [Entries.members_putEntry, Members.get?_put, hplain]
      | cons q qs =>
        rw [if_neg fun heq => by simpa using hself.mp heq, if_pos (hfront.mpr ⟨q, qs, rfl⟩)]
        simp only [List.map_cons, String.ofList_toList]
        exact get?_assign_inside _ _ _ _ _
    · have hne : m ≠ String.ofList p := fun heq => hp (by rw [heq, String.toList_ofList])
      have hnot : ¬ (memberPrefix ++ m ++ "__").toList.isPrefixOf name.toList = true := fun h =>
        have ⟨_, _, heq⟩ := hfront.mp h
        hp (List.cons.inj heq).1
      rw [if_neg fun heq => hp (List.cons.inj (hself.mp heq)).1, if_neg hnot, Option.or_none,
        List.map_cons, get?_assign_of_ne hne]
  case isFalse h =>
    have hother : name ≠ memberPrefix ++ m := by
      rintro rfl
      exact h (List.isPrefixOf_iff_prefix.mpr ⟨m.toList, String.toList_append.symm⟩)
    have hfront : (memberPrefix ++ m ++ "__").toList.isPrefixOf name.toList = false := by
      refine Bool.eq_false_iff.mpr fun hp => h (List.isPrefixOf_iff_prefix.mpr ?_)
      rw [List.isPrefixOf_iff_prefix, hinside] at hp
      exact (List.prefix_append _ _).trans hp
    rw [if_neg hother, hfront]
    simp

/-- What the variables with different names make of a member: what its own one holds if there is
one. -/
theorem get?_foldl_assignMember (hm : m ∈ ServiceSettings.names) {vars : Dotenv.Variables}
    (h : (vars.map Prod.fst).Nodup) (es : Entries) :
    Members.get? m (Entries.members (vars.foldl (fun es v => assignMember es v.1 v.2) es)) =
      match vars.lookup (memberPrefix ++ m) with
      | some text => some (text.elim .null .string)
      | none => (es.members.get? m).or
        (if vars.any fun v => (memberPrefix ++ m ++ "__").toList.isPrefixOf v.1.toList then
          some (.array []) else none) := by
  induction vars generalizing es with
  | nil => simp
  | cons v vars ih =>
    obtain ⟨name, text⟩ := v
    rw [List.map_cons, List.nodup_cons] at h
    rw [List.foldl_cons, ih h.2, get?_assignMember hm, lookup_cons_eq, List.any_cons]
    by_cases hname : name = memberPrefix ++ m
    · subst hname
      have hnone : vars.lookup (memberPrefix ++ m) = none := by
        rw [List.lookup_eq_none_iff]
        intro v hv
        rw [bne_iff_ne]
        rintro heq
        exact h.1 (List.mem_map.mpr ⟨v, hv, heq.symm⟩)
      rw [if_pos rfl, if_pos rfl, hnone]
      simp
    · rw [if_neg hname, if_neg (Ne.symm hname)]
      cases vars.lookup (memberPrefix ++ m) with
      | some text => rfl
      | none =>
        dsimp only
        generalize vars.any _ = rest
        generalize (memberPrefix ++ m ++ "__").toList.isPrefixOf name.toList = first
        cases es.members.get? m <;> cases first <;> cases rest <;> rfl

end Assigning

/-! ## The members that have variables -/

/-- Members that come from variables: each is there once, by a name in lower case. -/
structure AreHeld (es : Entries) : Prop where
  named : es.AreNamed
  nodup : (es.members.map Prod.fst).Nodup
  lower : ∀ name ∈ es.members.map Prod.fst, Text.IsLower name

theorem areHeld_nil : AreHeld [] :=
  ⟨Entries.areNamed_nil, List.nodup_nil, fun _ h => absurd h List.not_mem_nil⟩

/-- The first name of a path is in lower case if the text is. -/
theorem exists_isLower_pathOf {cs : List Char} (h : ∀ c ∈ cs, c.toLower = c) :
    ∃ key path, (pathOf cs).map String.ofList = key :: path ∧ Text.IsLower key := by
  obtain ⟨p, ⟨hpath, hcs⟩ | ⟨rest, hpath, hcs⟩⟩ := pathOf_cases cs
  · refine ⟨String.ofList p, [], by rw [hpath]; rfl, Text.isLower_iff.mpr fun c hc => h c ?_⟩
    rwa [String.toList_ofList, ← hcs] at hc
  · refine ⟨String.ofList p, _, by rw [hpath]; rfl, Text.isLower_iff.mpr fun c hc => h c ?_⟩
    rw [String.toList_ofList] at hc
    exact hcs ▸ List.mem_append_left _ hc

theorem AreHeld.assignMember {text : Option String} (h : AreHeld es) (hname : Text.IsLower name) :
    AreHeld (assignMember es name text) := by
  unfold Settings.assignMember
  split
  case isFalse => exact h
  case isTrue =>
    obtain ⟨key, path, hpath, hkey⟩ := exists_isLower_pathOf
      fun c hc => Text.isLower_iff.mp hname c (List.mem_of_mem_drop hc)
    rw [hpath]
    obtain ⟨w, hw⟩ | hw := assign_cases (text.elim .null .string) key path es
    · rw [hw]
      refine ⟨(Entries.areNamed_putEntry _ _ _).mpr h.named, ?_, ?_⟩
      · rw [Entries.members_putEntry]
        exact Members.nodup_put h.nodup
      · rw [Entries.members_putEntry, Members.map_fst_put]
        split
        · exact h.lower
        · intro name hmem
          obtain hmem | hmem := List.mem_append.mp hmem
          · exact h.lower name hmem
          · exact List.mem_singleton.mp hmem ▸ hkey
    · rwa [hw]

theorem areHeld_serviceMembers (vars : Dotenv.Variables) :
    AreHeld (serviceMembers (lowerNames vars)) := by
  suffices h : ∀ low : Dotenv.Variables, (∀ v ∈ low, Text.IsLower v.1) → ∀ es, AreHeld es →
      AreHeld (low.foldl (fun es v => assignMember es v.1 v.2) es) from
    h _ (fun _ => isLower_of_mem_lowerNames) [] areHeld_nil
  intro low hlow
  induction low with
  | nil => exact fun es h => h
  | cons v low ih =>
    obtain ⟨hv, hlow⟩ := List.forall_mem_cons.mp hlow
    exact fun es h => ih hlow _ (h.assignMember hv)

theorem any_isInside (m : String) (vars : Dotenv.Variables) :
    ((lowerNames vars).any fun v => (memberPrefix ++ m ++ "__").toList.isPrefixOf v.1.toList) =
      vars.any fun v => isInside m v.1 := by
  rw [Bool.eq_iff_iff, List.any_eq_true, List.any_eq_true]
  constructor
  · rintro ⟨v, hv, hfront⟩
    obtain ⟨w, hw, hname⟩ := (mem_lowerNames vars v.1).mp (List.mem_map_of_mem hv)
    refine ⟨w, hw, ?_⟩
    rwa [isInside, ← String.toList_map, hname]
  · rintro ⟨w, hw, hfront⟩
    obtain ⟨v, hv, hname⟩ := List.mem_map.mp ((mem_lowerNames vars _).mpr ⟨w, hw, rfl⟩)
    refine ⟨v, hv, ?_⟩
    rwa [hname, String.toList_map]

/-- What the variables of a member come to. -/
theorem get?_serviceMembers {m : String} (hm : m ∈ ServiceSettings.names)
    (vars : Dotenv.Variables) :
    (serviceMembers (lowerNames vars)).members.get? m = ownVariable? m vars := by
  have hlower : ∀ m ∈ ServiceSettings.names, Text.IsLower (memberPrefix ++ m) := by decide
  refine (get?_foldl_assignMember hm (nodup_lowerNames vars) []).trans ?_
  rw [lookup_lowerNames (hlower m hm), any_isInside, ownVariable?]
  rfl

end Workbench.Settings
