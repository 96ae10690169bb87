import Mathlib.Data.List.Nodup
import Workbench.Proofs.Json.Grammar
import Workbench.Proofs.Json.Members

/-!
# Reading what was written

A value that has been read is read back from any text of it, by any reader that follows at least as
many levels of nesting. Main definitions: `IsReadable`, what every value that
has been read is like, and `Value.floats`, the floating-point numbers in a value. Of the text of
those numbers nothing is used but that it reads back.
-/
namespace Workbench.Json

/-! ## Values that have been read -/

/-- A value that a reader following so many levels of nesting can give: no integer is too long, and
no name is repeated. -/
inductive IsReadable : Nat → Value → Prop
  | null {budget} : IsReadable budget .null
  | bool {budget b} : IsReadable budget (.bool b)
  | int {budget i} (hlength : (Nat.toDigits 10 i.natAbs).length ≤ maxIntegerDigits) :
      IsReadable budget (.int i)
  | float {budget x} : IsReadable budget (.float x)
  | string {budget s} : IsReadable budget (.string s)
  | array {budget vs} (hitems : ∀ v ∈ vs, IsReadable budget v) :
      IsReadable (budget + 1) (.array vs)
  | object {budget ms} (hnames : (ms.map Prod.fst).Nodup)
      (hmembers : ∀ m ∈ ms, IsReadable budget m.2) : IsReadable (budget + 1) (.object ms)

/-- More nesting can only give more values. -/
theorem IsReadable.mono {budget budget' : Nat} {v : Value} (h : IsReadable budget v)
    (hle : budget ≤ budget') : IsReadable budget' v := by
  induction h generalizing budget' with
  | null => exact .null
  | bool => exact .bool
  | int hlength => exact .int hlength
  | float => exact .float
  | string => exact .string
  | array _ ih =>
    obtain _ | budget' := budget'
    · omega
    · exact .array fun v hv => ih v hv (by omega)
  | object hnames _ ih =>
    obtain _ | budget' := budget'
    · omega
    · exact .object hnames fun m hm => ih m hm (by omega)

theorem Members.forall_put {P : Value → Prop} (name : String) {v : Value} {ms : Members} (hv : P v)
    (h : ∀ m ∈ ms, P m.2) : ∀ m ∈ ms.put name v, P m.2 := by
  induction ms with
  | nil => simpa [put] using hv
  | cons m ms ih =>
    obtain ⟨hm, hms⟩ := List.forall_mem_cons.mp h
    rw [put]
    split
    · exact List.forall_mem_cons.mpr ⟨hv, hms⟩
    · exact List.forall_mem_cons.mpr ⟨hm, ih hms⟩

section Scanning

variable {P : Value → Prop} {item : List Char → Scanned Value}

theorem forall_of_scanItems (hitem : ∀ s v r, item s = .ok (v, r) → P v) {fuel : Nat}
    {s r : List Char} {read vs : List Value} (hread : ∀ v ∈ read, P v)
    (h : scanItems item fuel s read = .ok (vs, r)) : ∀ v ∈ vs, P v := by
  induction fuel generalizing s read with
  | zero => cases h
  | succ fuel ih =>
    rw [scanItems] at h
    split at h
    case h_1 => cases h
    case h_2 v s' hv =>
      have hread' : ∀ u ∈ v :: read, P u := List.forall_mem_cons.mpr ⟨hitem _ _ _ hv, hread⟩
      split at h
      · cases h
        exact fun u hu => hread' u (List.mem_reverse.mp hu)
      · exact ih hread' h
      · cases h

theorem of_scanMember (hitem : ∀ s v r, item s = .ok (v, r) → P v) {s r : List Char}
    {m : String × Value} (h : scanMember item s = .ok (m, r)) : P m.2 := by
  unfold scanMember at h
  split at h
  case h_2 => cases h
  case h_1 =>
    split at h
    case h_1 => cases h
    case h_2 =>
      split at h
      case h_2 => cases h
      case h_1 =>
        split at h
        case h_1 => cases h
        case h_2 hv =>
          cases h
          exact hitem _ _ _ hv

theorem of_scanMembers (hitem : ∀ s v r, item s = .ok (v, r) → P v) {fuel : Nat} {s r : List Char}
    {read ms : Members} (hnames : (read.map Prod.fst).Nodup) (hread : ∀ m ∈ read, P m.2)
    (h : scanMembers item fuel s read = .ok (ms, r)) :
    (ms.map Prod.fst).Nodup ∧ ∀ m ∈ ms, P m.2 := by
  induction fuel generalizing s read with
  | zero => cases h
  | succ fuel ih =>
    rw [scanMembers] at h
    split at h
    case h_1 => cases h
    case h_2 name v s' hm =>
      have hread' := Members.forall_put name (of_scanMember hitem hm) hread
      split at h
      · cases h
        exact ⟨Members.nodup_put hnames, hread'⟩
      · exact ih (Members.nodup_put hnames) hread' h
      · cases h

theorem isReadable_of_scanContainer {budget : Nat}
    (hitem : ∀ s v r, item s = .ok (v, r) → IsReadable budget v) {c : Container} {s r : List Char}
    {v : Value} (h : scanContainer item c s = .ok (v, r)) : IsReadable (budget + 1) v := by
  cases c with
  | array =>
    rw [scanContainer] at h
    split at h
    · cases h
      exact .array (by simp)
    · split at h
      case h_1 hitems =>
        cases h
        exact .array (forall_of_scanItems hitem (by simp) hitems)
      case h_2 => cases h
  | object =>
    rw [scanContainer] at h
    split at h
    · cases h
      exact .object (by simp) (by simp)
    · split at h
      case h_1 hmembers =>
        cases h
        obtain ⟨hnames, hvalues⟩ := of_scanMembers hitem (by simp) (by simp) hmembers
        exact .object hnames hvalues
      case h_2 => cases h

end Scanning

theorem isReadable_of_scanPlain {budget : Nat} {s r : List Char} {v : Value}
    (h : scanPlain s = .ok (v, r)) : IsReadable budget v := by
  rw [scanPlain] at h
  split at h
  case h_1 w v' hword =>
    cases h
    have hmem := List.mem_of_find?_eq_some hword
    have hwords : ∀ w ∈ words, IsReadable budget w.2 := by
      simp [words, IsReadable.null, IsReadable.bool, IsReadable.float]
    exact hwords _ hmem
  case h_2 =>
    obtain ⟨i, rfl, hlength⟩ | ⟨x, rfl⟩ := scanNumber_cases h
    · exact .int hlength
    · exact .float

theorem isReadable_of_scanWith {budget : Nat} {enter : Container → List Char → Scanned Value}
    (henter : ∀ c s v r, enter c s = .ok (v, r) → IsReadable budget v) {s r : List Char} {v : Value}
    (h : scanWith enter s = .ok (v, r)) : IsReadable budget v := by
  unfold scanWith at h
  split at h
  · split at h
    · cases h
      exact .string
    · cases h
  · exact henter _ _ _ _ h
  · exact henter _ _ _ _ h
  · exact isReadable_of_scanPlain h

/-- What a reader gives is readable. -/
theorem isReadable_of_scanValue {budget : Nat} {s r : List Char} {v : Value}
    (h : scanValue budget s = .ok (v, r)) : IsReadable budget v := by
  induction budget generalizing s v r with
  | zero => exact isReadable_of_scanWith (fun _ _ _ _ h => by cases h) h
  | succ budget ih =>
    exact isReadable_of_scanWith
      (fun _ _ _ _ h => isReadable_of_scanContainer (fun _ _ _ h => ih h) h) h

/-- Decode a list of characters, following so many levels of nesting. -/
def scanTextWithin (budget : Nat) (text : List Char) : Except Stop Value :=
  match scanValue budget (skipSpace text) with
  | .error e => .error e
  | .ok (v, rest) =>
    match skipSpace rest with
    | [] => .ok v
    | rest => .error (.fault .extraData rest.length)

/-- The decoder is the one that follows `maxNesting` levels. -/
theorem scanTextWithin_maxNesting (text : List Char) :
    scanTextWithin maxNesting text = scanText text := rfl

theorem decode_eq_ok {text : String} {v : Value} :
    decode text = .ok v ↔ scanTextWithin maxNesting text.toList = .ok v := by
  rw [scanTextWithin_maxNesting]
  unfold decode decodeChars
  split
  case isTrue hmark =>
    -- a byte-order mark begins no value
    obtain ⟨more, htext⟩ := List.head?_eq_some_iff.mp hmark
    rw [htext]
    constructor
    · intro h
      cases h
    · intro h
      cases h
  case isFalse =>
    cases scanText text.toList with
    | ok u => simp
    | error e => simp

theorem exists_scanValue_of_scanTextWithin {budget : Nat} {text : List Char} {v : Value}
    (h : scanTextWithin budget text = .ok v) :
    ∃ rest, scanValue budget (skipSpace text) = .ok (v, rest) := by
  unfold scanTextWithin at h
  split at h
  case h_1 => cases h
  case h_2 v' rest hvalue =>
    split at h
    · cases h
      exact ⟨rest, hvalue⟩
    · cases h

theorem isReadable_of_scanTextWithin {budget : Nat} {text : List Char} {v : Value}
    (h : scanTextWithin budget text = .ok v) : IsReadable budget v := by
  obtain ⟨rest, hvalue⟩ := exists_scanValue_of_scanTextWithin h
  exact isReadable_of_scanValue hvalue

theorem isReadable_of_decode {text : String} {v : Value} (h : decode text = .ok v) :
    IsReadable maxNesting v := isReadable_of_scanTextWithin (decode_eq_ok.mp h)

/-! ## The floating-point numbers in a value -/

namespace Value

mutual

/-- The floating-point numbers in a value. -/
def floats : Value → List Number.Binary64
  | .float x => [x]
  | .array vs => floatsOfItems vs
  | .object ms => floatsOfMembers ms
  | _ => []

/-- Those among the items of an array. -/
def floatsOfItems : List Value → List Number.Binary64
  | [] => []
  | v :: vs => floats v ++ floatsOfItems vs

/-- Those among the members of an object. -/
def floatsOfMembers : List (String × Value) → List Number.Binary64
  | [] => []
  | (_, v) :: ms => floats v ++ floatsOfMembers ms

end

theorem floatsOfItems_eq (vs : List Value) : floatsOfItems vs = vs.flatMap floats := by
  induction vs with
  | nil => rfl
  | cons v vs ih => rw [floatsOfItems, ih, List.flatMap_cons]

theorem floatsOfMembers_eq (ms : List (String × Value)) :
    floatsOfMembers ms = ms.flatMap fun m => floats m.2 := by
  induction ms with
  | nil => rfl
  | cons m ms ih => rw [floatsOfMembers, ih, List.flatMap_cons]

theorem mem_floats_array {vs : List Value} {x : Number.Binary64} :
    x ∈ (array vs).floats ↔ ∃ v ∈ vs, x ∈ v.floats := by
  rw [floats, floatsOfItems_eq, List.mem_flatMap]

theorem mem_floats_object {ms : List (String × Value)} {x : Number.Binary64} :
    x ∈ (object ms).floats ↔ ∃ m ∈ ms, x ∈ m.2.floats := by
  rw [floats, floatsOfMembers_eq, List.mem_flatMap]

end Value

theorem anyNonFinite_eq (vs : List Value) : anyNonFinite vs = vs.any hasNonFinite := by
  induction vs with
  | nil => rfl
  | cons v vs ih => rw [anyNonFinite, ih, List.any_cons]

theorem anyNonFiniteMember_eq (ms : List (String × Value)) :
    anyNonFiniteMember ms = ms.any fun m => hasNonFinite m.2 := by
  induction ms with
  | nil => rfl
  | cons m ms ih => rw [anyNonFiniteMember, ih, List.any_cons]

/-- A value has what the standard grammar cannot write if one of its floating-point numbers is not
finite. -/
theorem hasNonFinite_iff {budget : Nat} {v : Value} (h : IsReadable budget v) :
    hasNonFinite v = true ↔ ∃ x ∈ v.floats, x.isFinite = false := by
  induction h with
  | null => simp [hasNonFinite, Value.floats]
  | bool => simp [hasNonFinite, Value.floats]
  | int => simp [hasNonFinite, Value.floats]
  | float => simp [hasNonFinite, Value.floats]
  | string => simp [hasNonFinite, Value.floats]
  | @array budget vs _ ih =>
    simp only [hasNonFinite, anyNonFinite_eq, List.any_eq_true, Value.mem_floats_array]
    constructor
    · rintro ⟨v, hv, hnonfinite⟩
      obtain ⟨x, hx, hinfinite⟩ := (ih v hv).mp hnonfinite
      exact ⟨x, ⟨v, hv, hx⟩, hinfinite⟩
    · rintro ⟨x, ⟨v, hv, hx⟩, hinfinite⟩
      exact ⟨v, hv, (ih v hv).mpr ⟨x, hx, hinfinite⟩⟩
  | @object budget ms _ _ ih =>
    simp only [hasNonFinite, anyNonFiniteMember_eq, List.any_eq_true, Value.mem_floats_object]
    constructor
    · rintro ⟨m, hm, hnonfinite⟩
      obtain ⟨x, hx, hinfinite⟩ := (ih m hm).mp hnonfinite
      exact ⟨x, ⟨m, hm, hx⟩, hinfinite⟩
    · rintro ⟨x, ⟨m, hm, hx⟩, hinfinite⟩
      exact ⟨m, hm, (ih m hm).mpr ⟨x, hx, hinfinite⟩⟩

/-- The number's text reads back as the number. -/
def ReadsBack (x : Number.Binary64) : Prop := decode (floatText x) = .ok (.float x)

/-! ## Reading a text of a value -/

/-- The reader reads a value from a text, whatever comes after it. -/
def Reads (item : List Char → Scanned Value) (v : Value) (s : List Char) : Prop :=
  ∀ rest, EndsNumber rest → item (s ++ rest) = .ok (v, rest)

section Writing

variable {item : List Char → Scanned Value}

theorem scanItems_of_isItemsText {v : Value} {vs read : List Value} {s t : List Char}
    (hs : Reads item v s) (hvs : ∀ u ∈ vs, ∀ s, IsTextOf u s → Reads item u s)
    (ht : IsItemsText vs t) {fuel : Nat} (hfuel : vs.length < fuel) (rest : List Char) :
    scanItems item fuel (s ++ (t ++ rest)) read = .ok (read.reverse ++ v :: vs, rest) := by
  induction vs generalizing v read fuel s t with
  | nil =>
    obtain _ | fuel := fuel
    · omega
    rw [scanItems, hs _ (ht.endsNumber_append rest)]
    cases ht with
    | @close gap hgap =>
      have hclose : skipSpace (gap ++ [']'] ++ rest) = ']' :: rest := by
        rw [List.append_assoc, hgap.skipSpace_append]
        rfl
      dsimp only
      rw [hclose]
      simp
  | cons u vs ih =>
    obtain _ | fuel := fuel
    · omega
    obtain ⟨hu, hvs⟩ := List.forall_mem_cons.mp hvs
    rw [scanItems, hs _ (ht.endsNumber_append rest)]
    cases ht with
    | @item gap gap' _ _ s' t' hgap hgap' hs' ht' =>
      have hcomma : skipSpace (gap ++ ',' :: (gap' ++ (s' ++ t')) ++ rest) =
          ',' :: (gap' ++ (s' ++ (t' ++ rest))) := by
        rw [List.append_assoc, hgap.skipSpace_append]
        simp [skipSpace, isSpace]
      dsimp only
      rw [hcomma]
      change scanItems item fuel (skipSpace (gap' ++ (s' ++ (t' ++ rest)))) (v :: read) = _
      rw [hgap'.skipSpace_append, hs'.skipSpace_append,
        ih (hu s' hs') hvs ht' (by simpa using hfuel)]
      simp

/-- Reading the items of an array reads the array. -/
theorem scanContainer_array {vs : List Value} {s : List Char}
    (hvs : ∀ v ∈ vs, ∀ s, IsTextOf v s → Reads item v s) (h : IsTextOf (.array vs) ('[' :: s))
    (rest : List Char) : scanContainer item .array (s ++ rest) = .ok (.array vs, rest) := by
  rw [scanContainer]
  cases h with
  | @emptyArray gap hgap =>
    rw [List.append_assoc, hgap.skipSpace_append]
    rfl
  | @array gap v vs s t hgap hs ht =>
    obtain ⟨hv, hvs⟩ := List.forall_mem_cons.mp hvs
    have hlength := ht.length_le
    have hitems := @scanItems_of_isItemsText item v vs [] s t (hv s hs) hvs ht
      ((s ++ (t ++ rest)).length + 1) (by simp only [List.length_append]; omega) rest
    rw [List.append_assoc, List.append_assoc, hgap.skipSpace_append, hs.skipSpace_append]
    split
    case h_1 heq =>
      -- no item begins with the bracket
      obtain ⟨c, more, rfl, -, hbracket⟩ := hs.exists_eq_cons
      exact absurd (List.cons.inj heq).1 hbracket
    case h_2 =>
      rw [hitems]
      rfl

theorem scanMember_of_isMemberText {m : String × Value} {s rest : List Char}
    (hm : ∀ s, IsTextOf m.2 s → Reads item m.2 s) (h : IsMemberText m s)
    (hrest : EndsNumber rest) : scanMember item (s ++ rest) = .ok (m, rest) := by
  cases h with
  | @mk gap gap' k v s hgap hgap' hs =>
    have hcolon : skipSpace (gap ++ ':' :: (gap' ++ s) ++ rest) = ':' :: (gap' ++ (s ++ rest)) := by
      rw [List.append_assoc, hgap.skipSpace_append]
      simp [skipSpace, isSpace]
    rw [List.append_assoc, quote_toList, List.cons_append, scanMember, List.append_assoc,
      List.singleton_append, scanString_quoted]
    dsimp only
    rw [hcolon]
    simp only [hgap'.skipSpace_append, hs.skipSpace_append]
    rw [hm s hs rest hrest]

theorem scanMembers_of_isMembersText {m : String × Value} {ms read : List (String × Value)}
    {s t : List Char} (hm : ∀ s, IsTextOf m.2 s → Reads item m.2 s)
    (hms : ∀ n ∈ ms, ∀ s, IsTextOf n.2 s → Reads item n.2 s) (hs : IsMemberText m s)
    (ht : IsMembersText ms t) (hnames : ((read ++ m :: ms).map Prod.fst).Nodup) {fuel : Nat}
    (hfuel : ms.length < fuel) (rest : List Char) :
    scanMembers item fuel (s ++ (t ++ rest)) read = .ok (read ++ m :: ms, rest) := by
  have hfresh : m.1 ∉ read.map Prod.fst := by
    rw [List.map_append, List.nodup_append] at hnames
    exact fun hmem => hnames.2.2 _ hmem m.1 (by simp) rfl
  induction ms generalizing m read fuel s t with
  | nil =>
    obtain _ | fuel := fuel
    · omega
    rw [scanMembers, scanMember_of_isMemberText hm hs (ht.endsNumber_append rest)]
    cases ht with
    | @close gap hgap =>
      have hclose : skipSpace (gap ++ ['\x7d'] ++ rest) = '\x7d' :: rest := by
        rw [List.append_assoc, hgap.skipSpace_append]
        rfl
      dsimp only
      rw [hclose, ← Members.put_of_not_mem hfresh]
      rfl
  | cons n ms ih =>
    obtain _ | fuel := fuel
    · omega
    obtain ⟨hn, hms⟩ := List.forall_mem_cons.mp hms
    rw [scanMembers, scanMember_of_isMemberText hm hs (ht.endsNumber_append rest)]
    cases ht with
    | @member gap gap' _ _ s' t' hgap hgap' hs' ht' =>
      have hcomma : skipSpace (gap ++ ',' :: (gap' ++ (s' ++ t')) ++ rest) =
          ',' :: (gap' ++ (s' ++ (t' ++ rest))) := by
        rw [List.append_assoc, hgap.skipSpace_append]
        simp [skipSpace, isSpace]
      have hnames' : (((read ++ [m]) ++ n :: ms).map Prod.fst).Nodup := by simpa using hnames
      have hfresh' : n.1 ∉ (read ++ [m]).map Prod.fst := by
        rw [List.map_append, List.nodup_append] at hnames'
        exact fun hmem => hnames'.2.2 _ hmem n.1 (by simp) rfl
      dsimp only
      rw [hcomma]
      change scanMembers item fuel (skipSpace (gap' ++ (s' ++ (t' ++ rest))))
        (Members.put m.1 m.2 read) = _
      rw [hgap'.skipSpace_append, hs'.skipSpace_append, Members.put_of_not_mem hfresh,
        ih hn hms hs' ht' hnames' (by simpa using hfuel) hfresh']
      simp

/-- Reading the members of an object reads the object. -/
theorem scanContainer_object {ms : List (String × Value)} {s : List Char}
    (hms : ∀ m ∈ ms, ∀ s, IsTextOf m.2 s → Reads item m.2 s) (hnames : (ms.map Prod.fst).Nodup)
    (h : IsTextOf (.object ms) ('\x7b' :: s)) (rest : List Char) :
    scanContainer item .object (s ++ rest) = .ok (.object ms, rest) := by
  rw [scanContainer]
  cases h with
  | @emptyObject gap hgap =>
    rw [List.append_assoc, hgap.skipSpace_append]
    rfl
  | @object gap m ms s t hgap hs ht =>
    obtain ⟨hm, hms⟩ := List.forall_mem_cons.mp hms
    have hlength := ht.length_le
    have hmembers := @scanMembers_of_isMembersText item m ms [] s t hm hms hs ht hnames
      ((s ++ (t ++ rest)).length + 1) (by simp only [List.length_append]; omega) rest
    rw [List.append_assoc, List.append_assoc, hgap.skipSpace_append, hs.skipSpace_append]
    split
    case h_1 heq =>
      -- no member begins with the brace
      obtain ⟨more, rfl⟩ := hs.exists_eq_cons
      exact absurd (List.cons.inj heq).1 (by decide)
    case h_2 =>
      rw [hmembers]
      rfl

end Writing

theorem scanValue_eq (budget : Nat) (s : List Char) :
    ∃ enter, scanValue budget s = scanWith enter s := by
  cases budget <;> exact ⟨_, rfl⟩

/-- A readable value is read back from any text of it if its finite floating-point numbers are. -/
theorem reads_of_isTextOf {budget : Nat} {v : Value} (h : IsReadable budget v)
    (hfloats : ∀ x ∈ v.floats, x.isFinite = true → ReadsBack x) {s : List Char}
    (hs : IsTextOf v s) : Reads (scanValue budget) v s := by
  induction h generalizing s with
  | @null budget =>
    intro rest _
    cases hs
    cases budget <;> rfl
  | @bool budget b =>
    intro rest _
    cases hs
    cases b <;> cases budget <;> rfl
  | @int budget i hlength =>
    intro rest hrest
    cases hs
    obtain ⟨enter, henter⟩ := scanValue_eq budget ((integerText i).toList ++ rest)
    rw [henter, (isNumberText_integerText i).scanWith_append,
      hrest.scanNumber_append (scanNumber_integerText hlength)]
    rfl
  | @float budget x =>
    intro rest hrest
    cases hs
    cases hfinite : x.isFinite with
    | true =>
      have htext := isNumberText_floatText hfinite
      have hreads := hfloats x (by simp [Value.floats]) hfinite
      obtain ⟨enter, henter⟩ := scanValue_eq budget ((floatText x).toList ++ rest)
      rw [henter, htext.scanWith_append,
        hrest.scanNumber_append (htext.scanNumber_of_decode hreads)]
      rfl
    | false =>
      -- a word stands for it
      cases x with
      | nan => cases budget <;> rfl
      | infinite negative => cases negative <;> cases budget <;> rfl
      | finite => cases hfinite
  | @string budget t =>
    intro rest _
    cases hs
    obtain ⟨enter, henter⟩ := scanValue_eq budget ((quote t).toList ++ rest)
    rw [henter, quote_toList, List.cons_append, List.append_assoc, List.singleton_append]
    simp only [scanWith]
    rw [scanString_quoted]
  | @array budget vs _ ih =>
    intro rest _
    have hvs : ∀ v ∈ vs, ∀ s, IsTextOf v s → Reads (scanValue budget) v s := fun v hv s hs =>
      ih v hv (fun x hx => hfloats x (Value.mem_floats_array.mpr ⟨v, hv, hx⟩)) hs
    obtain ⟨s, rfl⟩ : ∃ t, s = '[' :: t := by
      cases hs <;> exact ⟨_, rfl⟩
    exact scanContainer_array hvs hs rest
  | @object budget ms hnames _ ih =>
    intro rest _
    have hms : ∀ m ∈ ms, ∀ s, IsTextOf m.2 s → Reads (scanValue budget) m.2 s := fun m hm s hs =>
      ih m hm (fun x hx => hfloats x (Value.mem_floats_object.mpr ⟨m, hm, hx⟩)) hs
    obtain ⟨s, rfl⟩ : ∃ t, s = '\x7b' :: t := by
      cases hs <;> exact ⟨_, rfl⟩
    exact scanContainer_object hms hnames hs rest

theorem scanTextWithin_of_isTextOf {budget : Nat} {v : Value} (h : IsReadable budget v)
    (hfloats : ∀ x ∈ v.floats, x.isFinite = true → ReadsBack x) {s : List Char}
    (hs : IsTextOf v s) : scanTextWithin budget s = .ok v := by
  have hskip := hs.skipSpace_append []
  have hreads := reads_of_isTextOf h hfloats hs [] endsNumber_nil
  rw [List.append_nil] at hskip hreads
  rw [scanTextWithin, hskip, hreads]
  rfl

end Workbench.Json
