import Mathlib.Data.Rat.Floor
import Workbench.Proofs.Json.Members
import Workbench.Proofs.Service.Reading
import Workbench.Proofs.Service.Wire
import Workbench.Record.Flaw

/-!
# The metrics of an outcome

An answer that is read as an outcome is still read as one when something else stands in the fields of
its metrics, and nothing but the metrics changes. The execution time is the exception: a
floating-point number that is not finite costs the whole outcome.
-/
namespace Workbench.Number

/-- A number without its fraction. -/
def towardZero (q : ℚ) : ℤ := if 0 ≤ q then ⌊q⌋ else ⌈q⌉

theorem towardZero_of_nonneg {q : ℚ} (h : 0 ≤ q) : towardZero q = ⌊q⌋ := if_pos h

theorem towardZero_neg {q : ℚ} (h : 0 ≤ q) : towardZero (-q) = -⌊q⌋ := by
  obtain rfl | hpos := h.eq_or_lt
  · simp [towardZero]
  · rw [towardZero, if_neg (by simpa using hpos), Int.ceil_neg]

namespace Binary64

/-- What a finite number is worth. -/
def value? : Binary64 → Option ℚ
  | finite negative mantissa exponent _ =>
    some (if negative then -(mantissa * 2 ^ exponent) else mantissa * 2 ^ exponent)
  | _ => none

theorem magnitude_eq (mantissa : Nat) (exponent : Int) :
    ((magnitude mantissa exponent).1 : ℚ) / (magnitude mantissa exponent).2 =
      mantissa * 2 ^ exponent := by
  unfold magnitude
  split
  case isTrue h =>
    obtain ⟨n, rfl⟩ := Int.eq_ofNat_of_zero_le h
    simp [pow2]
  case isFalse h =>
    obtain ⟨n, hn⟩ := Int.eq_ofNat_of_zero_le (a := -exponent) (by omega)
    obtain rfl : exponent = -n := by omega
    simp [pow2, div_eq_mul_inv]

/-- The integer part of a finite number is the number cut toward zero. -/
theorem truncate?_eq (x : Binary64) : x.truncate? = x.value?.map towardZero := by
  cases x with
  | nan => rfl
  | infinite negative => rfl
  | finite negative mantissa exponent canonical =>
    have hsize := magnitude_eq mantissa exponent
    rw [value?, ← hsize, Option.map_some]
    unfold truncate?
    dsimp only
    generalize magnitude mantissa exponent = size
    obtain ⟨n, d⟩ := size
    have hnonneg : (0 : ℚ) ≤ n / d := by positivity
    have hfloor : ⌊(n / d : ℚ)⌋ = (n / d : Nat) := by
      rw [Rat.floor_natCast_div_natCast, Int.natCast_ediv]
    cases negative with
    | true => simp only [if_true, towardZero_neg hnonneg, hfloor]
    | false => simp only [Bool.false_eq_true, if_false, towardZero_of_nonneg hnonneg, hfloor]

end Binary64

end Workbench.Number

namespace Workbench.Record

open Json (Members Value)

/-! ## Another value for a field -/

namespace FieldName

/-- The names that a field goes by. -/
def names (f : FieldName) : List String := f.name :: f.otherName.toList

/-- The members with this value for the field, or without the field. -/
def set (f : FieldName) : Option Value → Members → Members
  | some v, ms => ms.put f.name v
  | none, ms => ms.filter (·.1 ∉ f.names)

end FieldName

variable {f g : FieldName} {ms : Members}

theorem get?_filter (names : List String) (k : String) (ms : Members) :
    Members.get? k (ms.filter (·.1 ∉ names)) = if k ∈ names then none else ms.get? k := by
  induction ms with
  | nil => simp [Members.get?]
  | cons m ms ih =>
    obtain ⟨k', v'⟩ := m
    by_cases hk : k' = k
    · subst hk
      by_cases hmem : k' ∈ names <;> simp_all [Members.get?]
    · by_cases hmem : k' ∈ names <;> simp_all [Members.get?]

theorem get?_eq (f : FieldName) (ms : Members) : f.get? ms = f.names.findSome? (ms.get? ·) := by
  unfold FieldName.get? FieldName.names
  rw [List.findSome?_cons]
  cases f.otherName <;> cases ms.get? f.name <;> simp

/-- What is set for a field is what is given for it. -/
theorem get?_set (f : FieldName) (v? : Option Value) (ms : Members) : f.get? (f.set v? ms) = v? := by
  cases v? with
  | some v => rw [get?_eq, FieldName.names, FieldName.set, List.findSome?_cons, Members.get?_put]
  | none =>
    rw [get?_eq, List.findSome?_eq_none_iff]
    intro k hk
    rw [FieldName.set, get?_filter, if_pos hk]

/-- Fields with other names are left as they are. -/
theorem get?_set_of_apart (h : ∀ k ∈ g.names, k ∉ f.names) (v? : Option Value) (ms : Members) :
    g.get? (f.set v? ms) = g.get? ms := by
  rw [get?_eq, get?_eq, ← List.head?_filterMap, ← List.head?_filterMap]
  refine congrArg List.head? (List.filterMap_congr fun k hk => ?_)
  cases v? with
  | some v =>
    refine Members.get?_put_of_ne (fun heq => h k hk ?_) v ms
    rw [heq]
    exact List.mem_cons_self
  | none => rw [FieldName.set, get?_filter, if_neg (h k hk)]

/-! ## Readers of fields -/

section Readers

variable {α : Type} {read : Value → Checked α} {value a : α}

theorem required_congr {ms' : Members} (h : f.get? ms' = f.get? ms) :
    required f read ms' = required f read ms := by
  unfold required
  rw [h]

theorem defaulted_congr {ms' : Members} (h : f.get? ms' = f.get? ms) :
    defaulted f read value ms' = defaulted f read value ms := by
  unfold defaulted
  rw [h]

end Readers

end Workbench.Record

namespace Workbench.Service.Outcome

open Json (Members Value)
open Record (FieldName defaulted required)
open Document (Rating)

variable {ms changed : Members} {o o' : Outcome}

/-! ## The metrics -/

def ratingField : FieldName := { name := "complexity" }

/-- The other fields of an outcome. -/
def plainFields : List FieldName :=
  [{ name := "success" }, { name := "result" },
    { name := "memoryUsage", otherName := some "memory_usage" }, { name := "error" }]

/-- The members with these values for the metrics, or without them. -/
def withMetrics (time rating : Option Value) (ms : Members) : Members :=
  timeField.set time (ratingField.set rating ms)

/-- The execution time that stands for what is given for it: a finite number cut toward zero. -/
def timeOf : Option Value → Option Int
  | some (.int i) => some i
  | some (.float x) => x.value?.map Number.towardZero
  | _ => none

/-- Is it a floating-point number that is not finite? -/
def isEndless : Option Value → Bool
  | some (.float x) => !x.isFinite
  | _ => false

/-- The rating that stands for what is given for it: the one with that name, whatever the case of its
letters and with or without white space around it, and the unknown one if there is none. -/
inductive IsRatingOf : Option Value → Option Rating → Prop
  | absent : IsRatingOf none none
  | null : IsRatingOf (some .null) none
  | named {s r} (h : Text.sameLower (Text.strip s) (Rating.name r) = true) :
      IsRatingOf (some (.string s)) (some r)
  | unnamed {s} (h : ∀ r, Text.sameLower (Text.strip s) (Rating.name r) = false) :
      IsRatingOf (some (.string s)) (some .unknown)
  | other {v} (hnull : v ≠ .null) (h : ∀ s, v ≠ .string s) : IsRatingOf (some v) (some .unknown)

/-- The decoded answer is read as this outcome. -/
structure IsReadAs (answer : Value) (o : Outcome) : Prop where
  finite : hasInfiniteTime answer = false
  good : ofValue answer = .good o

/-- The client takes an answer for just the outcome that its decoded body is read as. -/
theorem readOutcome_eq_ok_iff {status : Nat} {body : List Nat} {answer : Value}
    (h : Json.decodePayload body = .ok answer) :
    (Client.readOutcome (.answer status body)).2 = .ok o ↔ IsReadAs answer o := by
  have hparse (checked : Record.Checked Outcome) :
      Client.parse .transform checked = .ok o ↔ checked = .good o := by
    cases checked <;> simp [Client.parse]
  rw [Client.readOutcome_snd, Client.readPosted, h]
  dsimp only [Except.bind]
  split
  case isTrue hinfinite =>
    constructor
    · rintro ⟨⟩
    · rintro ⟨hfinite, -⟩
      rw [hinfinite] at hfinite
      cases hfinite
  case isFalse hfinite =>
    rw [hparse]
    exact ⟨fun hgood => ⟨Bool.eq_false_of_not_eq_true hfinite, hgood⟩, IsReadAs.good⟩

theorem isRatingOf_readRating (v : Value) :
    ∃ r, readRating v = .good r ∧ IsRatingOf (some v) r := by
  cases v with
  | null => exact ⟨none, rfl, .null⟩
  | string s =>
    refine ⟨_, rfl, ?_⟩
    rw [Rating.classify]
    cases hfind : Rating.all.find? fun r => Text.sameLower (Text.strip s) r.name with
    | some r => exact .named (by simpa using List.find?_some hfind)
    | none =>
      refine .unnamed fun r => ?_
      have hmem : r ∈ Rating.all := by cases r <;> decide
      simpa using List.find?_eq_none.mp hfind r hmem
  | _ => exact ⟨_, rfl, .other (by simp) (by simp)⟩

theorem isRatingOf_defaulted (ms : Members) :
    ∃ r, defaulted ratingField readRating none ms = .good r ∧
      IsRatingOf (ratingField.get? ms) r := by
  unfold defaulted
  cases ratingField.get? ms with
  | none => exact ⟨none, rfl, .absent⟩
  | some v =>
    obtain ⟨r, hr, hrating⟩ := isRatingOf_readRating v
    exact ⟨r, by simp only [hr, Record.Checked.under], hrating⟩

/-- A time that is not endless is read. -/
theorem defaulted_time (h : isEndless (timeField.get? ms) = false) :
    defaulted timeField readTime none ms = .good (timeOf (timeField.get? ms)) := by
  unfold defaulted
  generalize timeField.get? ms = time at h
  cases time with
  | none => rfl
  | some v =>
    cases v with
    | float x =>
      cases x with
      | finite negative mantissa exponent canonical =>
        simp only [readTime, timeOf, ← Number.Binary64.truncate?_eq]
        rfl
      | _ => cases h
    | _ => rfl

theorem defaulted_time_of_isEndless (h : isEndless (timeField.get? ms) = true) :
    defaulted timeField readTime none ms = .flawed [⟨["executionTime"], .valueError⟩] := by
  unfold defaulted
  generalize timeField.get? ms = time at h
  cases time with
  | none => cases h
  | some v =>
    cases v with
    | float x =>
      cases x with
      | finite => cases h
      | _ => rfl
    | _ => cases h

theorem hasInfiniteTime_eq (h : isEndless (timeField.get? ms) = false) :
    hasInfiniteTime (.object ms) = false := by
  unfold hasInfiniteTime
  dsimp only
  split
  case h_1 negative htime =>
    rw [htime] at h
    cases h
  case h_2 => rfl

/-! ## The whole outcome -/

/-- An outcome is read field by field. -/
theorem read_eq_good : read ms = .good o ↔
    required { name := "success" } Record.readBool ms = .good o.success ∧
      defaulted { name := "result" } (Record.optional Record.readString) none ms = .good o.result ∧
      defaulted timeField readTime none ms = .good o.executionTime ∧
      defaulted ratingField readRating none ms = .good o.rating ∧
      defaulted { name := "memoryUsage", otherName := some "memory_usage" }
        (Record.optional Record.readInt) none ms = .good o.memoryUsage ∧
      defaulted { name := "error" } (Record.optional Record.readString) none ms = .good o.error := by
  unfold read
  simp only [Record.seq_eq_good, Record.map_eq_good]
  constructor
  · rintro ⟨_, _, ⟨_, _, ⟨_, _, ⟨_, _, ⟨_, _, ⟨_, h1, rfl⟩, h2, rfl⟩, h3, rfl⟩, h4, rfl⟩, h5, rfl⟩, h6,
      rfl⟩
    exact ⟨h1, h2, h3, h4, h5, h6⟩
  · rintro ⟨h1, h2, h3, h4, h5, h6⟩
    exact ⟨_, _, ⟨_, _, ⟨_, _, ⟨_, _, ⟨_, _, ⟨_, h1, rfl⟩, h2, rfl⟩, h3, rfl⟩, h4, rfl⟩, h5, rfl⟩, h6, rfl⟩

/-- With the same in the other fields, only the metrics make a difference. -/
theorem read_eq_good_of_plain (h : read ms = .good o)
    (hplain : ∀ f ∈ plainFields, f.get? changed = f.get? ms) : read changed = .good o' ↔
      defaulted timeField readTime none changed = .good o'.executionTime ∧
        defaulted ratingField readRating none changed = .good o'.rating ∧
        o' = { o with executionTime := o'.executionTime, rating := o'.rating } := by
  simp only [plainFields, List.forall_mem_cons, List.not_mem_nil, false_imp_iff, implies_true,
    and_true] at hplain
  obtain ⟨hsuccess, hresult, hmemory, herror⟩ := hplain
  obtain ⟨h1, h2, -, -, h5, h6⟩ := read_eq_good.mp h
  rw [read_eq_good, Record.required_congr hsuccess, Record.defaulted_congr hresult,
    Record.defaulted_congr hmemory, Record.defaulted_congr herror, h1, h2, h5, h6]
  obtain ⟨success, result, time, rating, memory, error⟩ := o
  obtain ⟨success', result', time', rating', memory', error'⟩ := o'
  simp only [Record.Checked.good.injEq, mk.injEq, true_and]
  constructor
  · rintro ⟨rfl, rfl, htime, hrating, rfl, rfl⟩
    exact ⟨htime, hrating, rfl, rfl, rfl, rfl⟩
  · rintro ⟨htime, hrating, rfl, rfl, rfl, rfl⟩
    exact ⟨rfl, rfl, htime, hrating, rfl, rfl⟩

/-- An endless time is refused, as a flaw or past the handling of flaws. -/
theorem not_isReadAs_of_isEndless (h : isEndless (timeField.get? ms) = true) (o : Outcome) :
    ¬ IsReadAs (.object ms) o := by
  rintro ⟨-, hgood⟩
  obtain ⟨-, -, htime, -⟩ := read_eq_good.mp hgood
  rw [defaulted_time_of_isEndless h] at htime
  cases htime

theorem plainFields_get?_withMetrics {f : FieldName} (hf : f ∈ plainFields)
    (time rating : Option Value) (ms : Members) :
    f.get? (withMetrics time rating ms) = f.get? ms := by
  have hapart : ∀ f ∈ plainFields,
      (∀ k ∈ f.names, k ∉ timeField.names) ∧ ∀ k ∈ f.names, k ∉ ratingField.names := by
    decide
  obtain ⟨htime, hrating⟩ := hapart f hf
  rw [withMetrics, Record.get?_set_of_apart htime, Record.get?_set_of_apart hrating]

theorem timeField_get?_withMetrics (time rating : Option Value) (ms : Members) :
    timeField.get? (withMetrics time rating ms) = time :=
  Record.get?_set _ _ _

theorem ratingField_get?_withMetrics (time rating : Option Value) (ms : Members) :
    ratingField.get? (withMetrics time rating ms) = rating := by
  rw [withMetrics, Record.get?_set_of_apart (by decide), Record.get?_set]

/-- An answer that is read as an outcome is read as the same outcome, its metrics apart, whatever is
put in place of the values of its metrics: the rating is the one that the given value names, and the
execution time is the given number cut toward zero. Only for a floating-point number that is not
finite there is no outcome any more. -/
theorem isReadAs_withMetrics (h : IsReadAs (.object ms) o) (time rating : Option Value) :
    (isEndless time = false → ∃ r, IsRatingOf rating r ∧
        IsReadAs (.object (withMetrics time rating ms))
          { o with executionTime := timeOf time, rating := r }) ∧
      (isEndless time = true → ∀ o', ¬ IsReadAs (.object (withMetrics time rating ms)) o') := by
  have htime := timeField_get?_withMetrics time rating ms
  have hrating := ratingField_get?_withMetrics time rating ms
  have hplain : ∀ f ∈ plainFields, f.get? (withMetrics time rating ms) = f.get? ms :=
    fun f hf => plainFields_get?_withMetrics hf time rating ms
  generalize withMetrics time rating ms = changed at htime hrating hplain ⊢
  subst htime hrating
  refine ⟨fun hfinite => ?_, not_isReadAs_of_isEndless⟩
  obtain ⟨r, hr, hnamed⟩ := isRatingOf_defaulted changed
  refine ⟨r, hnamed, hasInfiniteTime_eq hfinite, ?_⟩
  exact (read_eq_good_of_plain h.good hplain).mpr ⟨defaulted_time hfinite, hr, rfl⟩

/-- The members of an answer without metrics. -/
def bareMembers : Members := [("success", .bool true), ("result", .string "2")]

theorem isReadAs_bareMembers :
    IsReadAs (.object bareMembers) { success := true, result := some "2" } := ⟨rfl, rfl⟩

/-- A time with a fraction and a rating in other letters are taken, and not-a-number is not. -/
theorem isReadAs_withMetrics_fraction :
    IsReadAs (.object bareMembers) { success := true, result := some "2" } ∧
      isEndless (some (.float threeHalves)) = false ∧
      IsReadAs (.object (withMetrics (some (.float threeHalves)) (some (.string " hIGH "))
          bareMembers))
        { success := true, result := some "2", executionTime := some 1, rating := some .high } ∧
      isEndless (some (.float .nan)) = true ∧
      ∀ o, ¬ IsReadAs (.object (withMetrics (some (.float .nan)) none bareMembers)) o := by
  obtain ⟨hfraction, -⟩ := isReadAs_withMetrics isReadAs_bareMembers
    (some (.float threeHalves)) (some (.string " hIGH "))
  obtain ⟨-, hnan⟩ := isReadAs_withMetrics isReadAs_bareMembers (some (.float .nan)) none
  obtain ⟨r, hr, hread⟩ := hfraction (by decide +kernel)
  have htime : timeOf (some (.float threeHalves)) = some 1 := by
    rw [timeOf, ← Number.Binary64.truncate?_eq]
    decide +kernel
  have hhigh : Text.sameLower (Text.strip " hIGH ") (Rating.name .high) = true := by decide +kernel
  obtain rfl : r = some .high := by
    cases hr with
    | @named _ r h =>
      cases r with
      | high => rfl
      | _ => exact absurd h (by decide +kernel)
    | unnamed h =>
      rw [h .high] at hhigh
      cases hhigh
    | other _ h => exact absurd rfl (h _)
  rw [htime] at hread
  exact ⟨isReadAs_bareMembers, by decide +kernel, hread, rfl, hnan rfl⟩

/-- The bytes of an answer with this execution time. -/
def bodyWithTime (time : String) : List Nat :=
  ("\x7b\"success\":true,\"result\":\"2\",\"executionTime\":" ++ time ++ "\x7d").toUTF8.toList.map
    UInt8.toNat

/-- An outcome is lost with a time that is not finite, and so is the same answer as it comes from the
service. -/
theorem metrics_cost_outcome :
    IsReadAs (.object bareMembers) { success := true, result := some "2" } ∧
      (∀ x ∈ [.nan, .infinite false, .infinite true], ∀ o,
        ¬ IsReadAs (.object (withMetrics (some (.float x)) none bareMembers)) o) ∧
      (Client.readOutcome (.answer 200 (bodyWithTime "1.5"))).2.toOption =
        some { success := true, result := some "2", executionTime := some 1 } ∧
      ∀ time ∈ ["NaN", "Infinity", "-Infinity"],
        (Client.readOutcome (.answer 200 (bodyWithTime time))).2.toOption = none := by
  refine ⟨isReadAs_bareMembers, fun x hx => not_isReadAs_of_isEndless ?_, by decide +kernel,
    by decide +kernel⟩
  rw [timeField_get?_withMetrics]
  revert x
  decide

end Workbench.Service.Outcome
