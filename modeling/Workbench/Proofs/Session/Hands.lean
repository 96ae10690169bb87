import Mathlib.Algebra.Order.Group.Multiset
import Workbench.Proofs.Session.Move

/-!
# What is in hand

All that the activities of a session have in hand, each in its role, and as often as it is. Who has
nothing in hand does not count.
-/
namespace Workbench.Session

open Turn (Task)

variable {V : Type}

def Hand.isFree : Hand → Bool
  | .free => true
  | _ => false

theorem Hand.isFree_iff {k : Hand} : k.isFree = true ↔ k = .free := by
  cases k <;> simp [Hand.isFree]

/-- What activities have in hand, by their roles. -/
abbrev Hands := Multiset (Role × Hand)

/-- What an activity has in hand, if anything. -/
def handOf (t : Task Role Plan) : Option (Role × Hand) :=
  t.plan?.bind fun p => if p.stage.hand.isFree then none else some (t.role, p.stage.hand)

theorem handOf_eq_some {t : Task Role Plan} {x : Role × Hand} :
    handOf t = some x ↔
      x.2 ≠ .free ∧ t.role = x.1 ∧ ∃ p, t.plan? = some p ∧ p.stage.hand = x.2 := by
  obtain ⟨role, k⟩ := x
  simp only [handOf, Option.bind_eq_some_iff, Option.ite_none_left_eq_some, Hand.isFree_iff,
    Option.some.injEq, Prod.mk.injEq]
  constructor
  · rintro ⟨p, hp, hfree, hrole, rfl⟩
    exact ⟨hfree, hrole, p, hp, rfl⟩
  · rintro ⟨hfree, hrole, p, hp, rfl⟩
    exact ⟨p, hp, hfree, hrole, rfl⟩

theorem handOf_eq_none {t : Task Role Plan} (h : ∀ p, t.plan? = some p → p.stage.hand = .free) :
    handOf t = none := by
  unfold handOf
  cases hp : t.plan? with
  | none => rfl
  | some p => simp [h p hp, Hand.isFree]

namespace Hands

/-- Put something in hand of an activity with this role. -/
def add (H : Hands) (role : Role) (k : Hand) : Hands := if k.isFree then H else (role, k) ::ₘ H

@[simp]
theorem mem_add {H : Hands} {role : Role} {k : Hand} {x : Role × Hand} :
    x ∈ H.add role k ↔ x ∈ H ∨ x = (role, k) ∧ k ≠ .free := by
  unfold add
  cases k <;> simp [Hand.isFree, or_comm]

theorem mem_add_of_mem {H : Hands} {role : Role} {k : Hand} {x : Role × Hand} (h : x ∈ H) :
    x ∈ H.add role k := mem_add.mpr (.inl h)

theorem mem_add_self {H : Hands} {role : Role} {k : Hand} (h : k ≠ .free) :
    (role, k) ∈ H.add role k := mem_add.mpr (.inr ⟨rfl, h⟩)

@[simp]
theorem add_free (H : Hands) (role : Role) : H.add role .free = H := rfl

/-- What the tasks have in hand. -/
def ofTasks (ts : List (Task Role Plan)) : Hands := ↑(ts.filterMap handOf)

@[simp]
theorem ofTasks_nil : ofTasks [] = 0 := rfl

theorem mem_ofTasks {ts : List (Task Role Plan)} {x : Role × Hand} :
    x ∈ ofTasks ts ↔
      x.2 ≠ .free ∧ ∃ t ∈ ts, t.role = x.1 ∧ ∃ p, t.plan? = some p ∧ p.stage.hand = x.2 := by
  simp only [ofTasks, Multiset.mem_coe, List.mem_filterMap, handOf_eq_some]
  constructor
  · rintro ⟨t, ht, hfree, h⟩
    exact ⟨hfree, t, ht, h⟩
  · rintro ⟨hfree, t, ht, h⟩
    exact ⟨t, ht, hfree, h⟩

theorem ofTasks_append (ts us : List (Task Role Plan)) :
    ofTasks (ts ++ us) = ofTasks ts + ofTasks us := by
  simp [ofTasks]

theorem ofTasks_cons (t : Task Role Plan) (ts : List (Task Role Plan)) :
    ofTasks (t :: ts) = ofTasks [t] + ofTasks ts := ofTasks_append [t] ts

theorem ofTasks_singleton {t : Task Role Plan} {plan : Plan} (h : t.plan? = some plan) :
    ofTasks [t] = add 0 t.role plan.stage.hand := by
  unfold ofTasks add handOf
  cases hfree : plan.stage.hand.isFree <;> simp [h, hfree]

theorem ofTasks_singleton_of_free {t : Task Role Plan}
    (h : ∀ p, t.plan? = some p → p.stage.hand = .free) : ofTasks [t] = 0 := by
  simp [ofTasks, handOf_eq_none h]

theorem add_zero_add (H : Hands) (role : Role) (k : Hand) : H + add 0 role k = H.add role k := by
  unfold add
  cases k.isFree
  · exact (add_comm H {(role, k)}).trans (Multiset.singleton_add (role, k) H)
  · exact add_zero H

/-- A new activity has its plan in hand. -/
theorem ofTasks_concat (ts : List (Task Role Plan)) (id : Nat) (role : Role) (plan : Plan) :
    ofTasks (ts ++ [⟨id, role, some plan⟩]) = (ofTasks ts).add role plan.stage.hand := by
  rw [ofTasks_append, ofTasks_singleton rfl, add_zero_add]

theorem ofTasks_append_of_free (ts : List (Task Role Plan)) {u : Task Role Plan}
    (h : ∀ p, u.plan? = some p → p.stage.hand = .free) : ofTasks (ts ++ [u]) = ofTasks ts := by
  rw [ofTasks_append, ofTasks_singleton_of_free h, add_zero]

/-- Who has no plan has nothing in hand. -/
theorem ofTasks_filter {ts : List (Task Role Plan)} {p : Task Role Plan → Bool}
    (h : ∀ t ∈ ts, p t = false → t.plan? = none) : ofTasks (ts.filter p) = ofTasks ts := by
  induction ts with
  | nil => rfl
  | cons t ts ih =>
    have ih := ih fun u hu => h u (List.mem_cons_of_mem _ hu)
    cases ht : p t with
    | true => rw [List.filter_cons_of_pos ht, ofTasks_cons, ih, ofTasks_cons t ts]
    | false =>
      have hnone := h t List.mem_cons_self ht
      rw [List.filter_cons_of_neg (by simp [ht]), ih, ofTasks_cons t ts,
        ofTasks_singleton_of_free (by simp [hnone]), zero_add]

/-- Of one activity and the others, the one has its plan in hand. -/
theorem ofTasks_put {ts : List (Task Role Plan)} {t : Task Role Plan} (ht : t ∈ ts)
    (hid : (ts.map (·.id)).Nodup) (plan : Plan) :
    ofTasks (ts.map (Task.put t.id (some plan))) =
      (ofTasks (ts.map (Task.put t.id none))).add t.role plan.stage.hand := by
  obtain ⟨before, after, rfl⟩ := List.append_of_mem ht
  -- the others are left as they are, whatever the plan
  have hothers (us : List (Task Role Plan)) (hus : ∀ u ∈ us, u.id ≠ t.id) (plan? : Option Plan) :
      us.map (Task.put t.id plan?) = us := by
    conv_rhs => rw [← List.map_id us]
    refine List.map_congr_left fun u hu => ?_
    rw [Task.put, if_neg (hus u hu), id]
  rw [List.map_append, List.map_cons, List.nodup_append, List.nodup_cons] at hid
  have hbefore : ∀ u ∈ before, u.id ≠ t.id := fun u hu =>
    hid.2.2 u.id (List.mem_map_of_mem hu) t.id List.mem_cons_self
  have hafter : ∀ u ∈ after, u.id ≠ t.id := fun u hu heq =>
    hid.2.1.1 (heq ▸ List.mem_map_of_mem (f := (·.id)) hu)
  have hself (plan? : Option Plan) : Task.put t.id plan? t = { t with plan? } := if_pos rfl
  simp only [List.map_append, List.map_cons, hothers before hbefore, hothers after hafter, hself]
  rw [ofTasks_append, ofTasks_append, ofTasks_cons, ofTasks_cons { t with plan? := none },
    ofTasks_singleton rfl, ofTasks_singleton_of_free (by simp), zero_add]
  rw [← add_zero_add (ofTasks before + ofTasks after), add_assoc, add_comm (ofTasks after)]

end Hands

/-- What the activities of a session have in hand. -/
def hands (s : Session V) : Hands := .ofTasks s.board.tasks

end Workbench.Session
