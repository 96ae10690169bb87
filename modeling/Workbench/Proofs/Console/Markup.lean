import Mathlib.Data.List.Infix
import Mathlib.Data.List.TakeWhile
import Workbench.Console.Markup

/-!
# Reading markup

How markup falls into pieces: a tag with the backslashes before it ends the text before it, and what
comes after it is read on its own. Reading takes characters of the markup away and adds none. It
leaves all backslashes and opening brackets only to a text that is inert: there is nothing in it that
markup takes for something else than itself.
-/
namespace Workbench.Console.Markup

/-- The content of a tag: it begins as tags do, and holds no bracket. -/
def IsTag (content : List Char) : Prop :=
  content.head?.any startsTag = true ∧ '[' ∉ content ∧ ']' ∉ content

instance : DecidablePred IsTag := fun _ => inferInstanceAs (Decidable (_ ∧ _ ∧ _))

/-- Backslashes and the tag that follows them. -/
def run (slashes : Nat) (content : List Char) : List Char :=
  List.replicate slashes '\\' ++ '[' :: (content ++ [']'])

/-- What such a run is read as. -/
def runPieces (slashes : Nat) (content : List Char) : List Piece :=
  textPiece (List.replicate (slashes / 2) '\\') ++
    [if slashes % 2 = 1 then .text ('[' :: content ++ [']']) else ofTag content]

/-- How markup is read, given the characters since the last tag, the latest first. -/
inductive IsRead : List Char → List Char → List Piece → Prop
  | done (plain : List Char) : IsRead plain [] (textPiece plain.reverse)
  | tag {plain slashes content rest ps} (htag : IsTag content) (hrest : IsRead [] rest ps) :
      IsRead plain (run slashes content ++ rest)
        (textPiece plain.reverse ++ runPieces slashes content ++ ps)
  | char {plain c cs ps} (hnone : escapedTag? (c :: cs) = none) (hrest : IsRead (c :: plain) cs ps) :
      IsRead plain (c :: cs) ps

/-- The text of a piece, without the backslashes that stand before brackets. -/
def Piece.bare : Piece → List Char
  | text cs => unescape cs
  | _ => []

/-- The text of pieces, before pictographs take the place of their codes. -/
def reading (ps : List Piece) : List Char := ps.flatMap Piece.bare

/-- None of the texts names a pictograph. -/
def NamesNone (ps : List Piece) : Prop := ∀ cs, .text cs ∈ ps → shown cs = unescape cs

/-- No tag begins in the text, with or without backslashes before it. -/
def IsUntagged (cs : List Char) : Prop := ∀ rest, rest <:+ cs → escapedTag? rest = none

/-- Markup takes everything in the text for itself, and nothing after the text is changed by it. -/
structure IsInert (cs : List Char) : Prop where
  untagged : IsUntagged cs
  unescaped : unescape cs = cs
  open_end : ¬ ['\\'] <:+ cs

/-- The characters by which markup begins to mean something else. -/
def isMark (c : Char) : Bool := c == '\\' || c == '['

/-- The content of the tag that closes a style. -/
def closing (style : String) : List Char := '/' :: style.toList

/-- A name of a style that can stand in a tag. -/
structure IsStyleName (style : String) : Prop where
  tag : IsTag style.toList
  closing_tag : IsTag (closing style)
  no_slash : '\\' ∉ closing style
  opens : ofTag style.toList = .opening style
  closes : ofTag (closing style) = .closing style
  ne_empty : style ≠ ""

variable {cs l rest plain content : List Char} {slashes : Nat} {ps ps' : List Piece}

/-! ## Tags -/

theorem drop_length_takeWhile {α : Type} (p : α → Bool) (xs : List α) :
    xs.drop (xs.takeWhile p).length = xs.dropWhile p := by
  induction xs with
  | nil => rfl
  | cons x xs ih => by_cases h : p x = true <;> simp [h, ih]

theorem tag?_eq_some :
    tag? cs = some content ↔ IsTag content ∧ ∃ rest, cs = content ++ ']' :: rest := by
  cases cs with
  | nil => simp [tag?]
  | cons c cs =>
    simp only [tag?, drop_length_takeWhile, Option.ite_none_right_eq_some, Bool.and_eq_true,
      decide_eq_true_eq, Option.some.injEq]
    constructor
    · rintro ⟨⟨hstarts, hclosed⟩, rfl⟩
      have hinside {d : Char} (hd : (d != ']' && d != '[') = false) :
          d ∉ c :: cs.takeWhile fun d => d != ']' && d != '[' := by
        rintro hmem
        obtain rfl | hmem := List.mem_cons.mp hmem
        · have hbracket : d = ']' ∨ d = '[' := by simpa [or_iff_not_imp_left] using hd
          obtain rfl | rfl := hbracket <;> cases hstarts
        · have hd' := List.mem_takeWhile_imp hmem
          rw [hd] at hd'
          cases hd'
      obtain ⟨rest, hrest⟩ := List.head?_eq_some_iff.mp hclosed
      refine ⟨⟨hstarts, hinside rfl, hinside rfl⟩, rest, ?_⟩
      rw [List.cons_append, ← hrest, List.takeWhile_append_dropWhile]
    · rintro ⟨⟨hstarts, hleft, hright⟩, rest, hcs⟩
      obtain ⟨rfl, -⟩ | ⟨content', rfl, rfl⟩ := List.cons_eq_append_iff.mp hcs
      · cases hstarts
      · have hpos : ∀ d ∈ content', (d != ']' && d != '[') = true := by
          intro d hd
          have hne : d ≠ ']' := fun heq => hright (heq ▸ List.mem_cons_of_mem _ hd)
          have hne' : d ≠ '[' := fun heq => hleft (heq ▸ List.mem_cons_of_mem _ hd)
          simp [hne, hne']
        rw [List.takeWhile_append_of_pos hpos, List.dropWhile_append_of_pos hpos]
        exact ⟨⟨hstarts, rfl⟩, by simp⟩

theorem takeWhile_slash (k : Nat) (h : cs.head? ≠ some '\\') :
    (List.replicate k '\\' ++ cs).takeWhile (· == '\\') = List.replicate k '\\' := by
  have hall : ∀ c ∈ List.replicate k '\\', (c == '\\') = true :=
    fun c hc => beq_iff_eq.mpr (List.eq_of_mem_replicate hc)
  rw [List.takeWhile_append_of_pos hall]
  cases cs with
  | nil => simp
  | cons c cs => simp_all

theorem escapedTag?_eq_some : escapedTag? cs = some (slashes, content) ↔
    IsTag content ∧ ∃ rest, cs = run slashes content ++ rest := by
  unfold escapedTag?
  dsimp only
  constructor
  · intro h
    split at h
    case h_2 => cases h
    case h_1 tail hdrop =>
      obtain ⟨content', htag?, heq⟩ := Option.map_eq_some_iff.mp h
      obtain ⟨hslashes, rfl⟩ := Prod.mk.inj heq
      obtain ⟨htag, rest, rfl⟩ := tag?_eq_some.mp htag?
      refine ⟨htag, rest, ?_⟩
      have hall : cs.takeWhile (· == '\\') = List.replicate slashes '\\' :=
        List.eq_replicate_iff.mpr ⟨hslashes, fun c hc => by simpa using List.mem_takeWhile_imp hc⟩
      rw [drop_length_takeWhile] at hdrop
      rw [← List.takeWhile_append_dropWhile (p := (· == '\\')) (l := cs), hall, hdrop, run]
      simp
  · rintro ⟨htag, rest, rfl⟩
    have hhead : ('[' :: (content ++ [']']) ++ rest).head? ≠ some '\\' := by simp
    have htag? : tag? ((content ++ [']']) ++ rest) = some content :=
      tag?_eq_some.mpr ⟨htag, rest, by simp⟩
    rw [run, List.append_assoc, takeWhile_slash _ hhead, List.drop_left]
    simp only [List.cons_append, htag?, Option.map_some, List.length_replicate]

theorem suffix_of_slashes (hne : l ≠ []) (h : ∀ c ∈ l, c = '\\') : ['\\'] <:+ l := by
  refine ⟨l.dropLast, ?_⟩
  rw [← h _ (List.getLast_mem hne), List.dropLast_append_getLast]

/-- What begins with a run and holds the end of a tag holds the beginning of the run's tag. -/
theorem mem_of_append_eq_run {ext tail : List Char} (hend : ']' ∈ ext)
    (h : run slashes content ++ rest = ext ++ tail) : '[' ∈ ext := by
  rw [run, List.append_assoc] at h
  obtain ⟨mid, rfl, hmid⟩ | ⟨mid, hmid, -⟩ := List.append_eq_append_iff.mp h
  · cases mid with
    | nil => simp at hend
    | cons c mid =>
      obtain ⟨rfl, -⟩ := List.cons.inj hmid
      simp
  · have hslash := List.eq_of_mem_replicate (hmid ▸ List.mem_append_left mid hend)
    cases hslash

/-- A run after a text does not make a tag of the text, unless the text ends with a backslash. -/
theorem escapedTag?_append_run (hne : l ≠ []) (hopen : ¬ ['\\'] <:+ l) (slashes : Nat)
    (content rest : List Char) :
    escapedTag? (l ++ (run slashes content ++ rest)) = escapedTag? l := by
  refine Option.ext fun ⟨k, name⟩ => ?_
  rw [escapedTag?_eq_some, escapedTag?_eq_some]
  refine and_congr_right fun ⟨_, hinside, _⟩ => ⟨?_, ?_⟩
  · rintro ⟨tail, heq⟩
    obtain ⟨ext, hext, hrun⟩ | ⟨ext, hext, -⟩ := List.append_eq_append_iff.mp heq
    · by_cases hnil : ext = []
      · exact ⟨[], by simpa [hnil] using hext.symm⟩
      · -- the tag would have to end in the run, and begin before it
        have hend : ']' ∈ ext := by
          have hlast := congrArg List.getLast? hext
          rw [List.getLast?_append_of_ne_nil _ hnil] at hlast
          rw [run, ← List.cons_append, ← List.append_assoc, List.getLast?_concat] at hlast
          exact List.mem_of_getLast? hlast.symm
        have hbegin := mem_of_append_eq_run hend hrun
        rw [run] at hext
        obtain ⟨mid, rfl, hmid⟩ | ⟨mid, hmid, -⟩ := List.append_eq_append_iff.mp hext
        · cases mid with
          | nil =>
            rw [List.append_nil] at hne hopen
            exact absurd (suffix_of_slashes hne fun c hc => List.eq_of_mem_replicate hc) hopen
          | cons c mid =>
            obtain ⟨-, hname⟩ := List.cons.inj hmid
            have hbegin' : '[' ∈ name ++ [']'] := hname ▸ List.mem_append_right mid hbegin
            simp only [List.mem_append, List.mem_singleton] at hbegin'
            obtain hmem | hmem := hbegin'
            · exact absurd hmem hinside
            · exact absurd hmem (by decide)
        · have hslashes : ∀ c ∈ l, c = '\\' :=
            fun c hc => List.eq_of_mem_replicate (hmid ▸ List.mem_append_left mid hc)
          exact absurd (suffix_of_slashes hne hslashes) hopen
    · exact ⟨ext, hext⟩
  · rintro ⟨tail, rfl⟩
    exact ⟨tail ++ (run slashes content ++ rest), by rw [List.append_assoc]⟩

/-! ## Pieces -/

theorem IsRead.unique (h : IsRead plain cs ps) (h' : IsRead plain cs ps') : ps = ps' := by
  induction h generalizing ps' with
  | done plain =>
    generalize hcs : [] = cs at h'
    cases h' with
    | done => rfl
    | tag => simp [run] at hcs
    | char => cases hcs
  | @tag plain slashes content rest ps htag hrest ih =>
    generalize hcs : run slashes content ++ rest = cs at h'
    have hsome : escapedTag? cs = some (slashes, content) :=
      escapedTag?_eq_some.mpr ⟨htag, rest, hcs.symm⟩
    cases h' with
    | done => simp [run] at hcs
    | @tag _ slashes' content' rest' ps' htag' hrest' =>
      have hsome' : escapedTag? (run slashes' content' ++ rest') = some (slashes', content') :=
        escapedTag?_eq_some.mpr ⟨htag', rest', rfl⟩
      obtain ⟨rfl, rfl⟩ := Prod.mk.inj (Option.some.inj (hsome.symm.trans hsome'))
      rw [ih ((List.append_cancel_left hcs) ▸ hrest')]
    | char hnone => simp [hnone] at hsome
  | @char plain c cs ps hnone hrest ih =>
    generalize hcs : c :: cs = cs' at h'
    cases h' with
    | done => cases hcs
    | tag htag' =>
      rw [hcs, escapedTag?_eq_some.mpr ⟨htag', _, rfl⟩] at hnone
      cases hnone
    | char _ hrest' =>
      obtain ⟨rfl, rfl⟩ := List.cons.inj hcs
      exact ih hrest'

theorem isRead_piecesFrom (skip : Nat) (plain cs : List Char) :
    IsRead plain (cs.drop skip) (piecesFrom skip plain cs) := by
  induction skip, plain, cs using piecesFrom.induct with
  | case1 skip plain =>
    rw [List.drop_nil, piecesFrom]
    exact .done plain
  | case2 plain skip c cs ih => simpa [piecesFrom] using ih
  | case3 plain c cs slashes content h ih =>
    obtain ⟨htag, rest, hrest⟩ := escapedTag?_eq_some.mp h
    have hdrop : cs.drop (slashes + content.length + 1) = rest := by
      have hlength : (run slashes content).length = slashes + content.length + 2 := by
        simp [run]; omega
      have := congrArg (List.drop (slashes + content.length + 2)) hrest
      rwa [List.drop_left' hlength, List.drop_succ_cons] at this
    rw [hdrop] at ih
    rw [piecesFrom, h, List.drop_zero, hrest]
    convert IsRead.tag htag ih using 1
    simp [runPieces]
  | case4 plain c cs h ih =>
    rw [piecesFrom, h]
    exact .char h ih

theorem isRead_pieces (cs : List Char) : IsRead [] cs (pieces cs) := isRead_piecesFrom 0 [] cs

theorem IsRead.append_run (h : IsRead plain l ps) (hopen : ¬ ['\\'] <:+ l)
    (htag : IsTag content) (slashes : Nat) (hrest : IsRead [] rest ps') :
    IsRead plain (l ++ (run slashes content ++ rest)) (ps ++ runPieces slashes content ++ ps') := by
  induction h with
  | done plain => exact .tag htag hrest
  | @tag plain k name tail ps htag' htail ih =>
    have htail := ih fun hsuffix => hopen (hsuffix.trans (List.suffix_append ..))
    have hread : IsRead plain (run k name ++ (tail ++ (run slashes content ++ rest)))
        (textPiece plain.reverse ++ runPieces k name ++
          (ps ++ runPieces slashes content ++ ps')) := .tag htag' htail
    simpa using hread
  | @char plain c cs ps hnone hcs ih =>
    refine .char ?_ (ih fun hsuffix => hopen (hsuffix.trans (List.suffix_cons ..)))
    exact (escapedTag?_append_run (List.cons_ne_nil _ _) hopen ..).trans hnone

/-- A tag after a text that does not end with a backslash divides the pieces. -/
theorem pieces_append_run (hopen : ¬ ['\\'] <:+ l) (htag : IsTag content) (slashes : Nat)
    (rest : List Char) : pieces (l ++ (run slashes content ++ rest)) =
      pieces l ++ runPieces slashes content ++ pieces rest :=
  (isRead_pieces _).unique ((isRead_pieces l).append_run hopen htag slashes (isRead_pieces rest))

theorem pieces_run_append (htag : IsTag content) (slashes : Nat) (rest : List Char) :
    pieces (run slashes content ++ rest) = runPieces slashes content ++ pieces rest :=
  pieces_append_run (l := []) (by simp) htag slashes rest

/-- A text without tags is one piece. -/
theorem IsUntagged.pieces_eq (h : IsUntagged cs) : pieces cs = textPiece cs := by
  have hread (plain : List Char) : IsRead plain cs (textPiece (plain.reverse ++ cs)) := by
    induction cs generalizing plain with
    | nil => simpa using IsRead.done plain
    | cons c cs ih =>
      refine .char (h _ List.suffix_rfl) ?_
      have htail : IsUntagged cs := fun rest hrest => h rest (hrest.trans (List.suffix_cons c cs))
      simpa using ih htail (c :: plain)
  exact (isRead_pieces cs).unique (hread [])

/-! ## Readings -/

theorem unescape_sublist (cs : List Char) : (unescape cs).Sublist cs := by
  induction cs using unescape.induct with
  | case1 cs ih => exact (ih.cons_cons '[').cons '\\'
  | case2 c cs hne ih =>
    rw [unescape]
    · exact ih.cons_cons c
    · exact hne
  | case3 => exact .slnil

/-- The backslashes that go were there. -/
theorem unescape_eq (h : cs.countP isMark ≤ (unescape cs).countP isMark) : unescape cs = cs := by
  induction cs using unescape.induct with
  | case1 cs ih =>
    have hle := (unescape_sublist cs).countP_le (p := isMark)
    rw [unescape] at h
    simp [isMark] at h hle
    omega
  | case2 c cs hne ih =>
    rw [unescape] at h ⊢
    · rw [List.countP_cons, List.countP_cons] at h
      rw [ih (by omega)]
    · exact hne
    · exact hne
  | case3 => rfl

@[simp] theorem reading_append (ps ps' : List Piece) :
    reading (ps ++ ps') = reading ps ++ reading ps' := List.flatMap_append

@[simp] theorem reading_textPiece (cs : List Char) : reading (textPiece cs) = unescape cs := by
  cases cs <;> simp [textPiece, reading, Piece.bare, unescape]

theorem bare_ofTag (content : List Char) : (ofTag content).bare = [] := by
  unfold ofTag
  split <;> rfl

theorem reading_runPieces_sublist (slashes : Nat) (content : List Char) :
    (reading (runPieces slashes content)).Sublist (run slashes content) := by
  rw [runPieces, run, reading_append, reading_textPiece]
  refine List.Sublist.append ?_ ?_
  · refine (unescape_sublist _).trans ((List.replicate_sublist_replicate _).mpr ?_)
    omega
  · split
    · simpa [reading, Piece.bare] using unescape_sublist ('[' :: content ++ [']'])
    · simp [reading, bare_ofTag]

/-- Reading takes characters away and adds none. -/
theorem IsRead.sublist (h : IsRead plain cs ps) : (reading ps).Sublist (plain.reverse ++ cs) := by
  induction h with
  | done plain =>
    rw [reading_textPiece, List.append_nil]
    exact unescape_sublist _
  | @tag plain slashes content rest ps htag hrest ih =>
    simp only [reading_append, reading_textPiece, List.append_assoc]
    exact (unescape_sublist _).append ((reading_runPieces_sublist slashes content).append ih)
  | char hnone hrest ih => simpa using ih

/-- A tag takes a mark away. -/
theorem countP_runPieces_lt (slashes : Nat) (content : List Char) :
    (reading (runPieces slashes content)).countP isMark < (run slashes content).countP isMark := by
  have hslashes : (unescape (List.replicate (slashes / 2) '\\')).countP isMark ≤ slashes / 2 := by
    have hlength := (unescape_sublist (List.replicate (slashes / 2) '\\')).length_le
    rw [List.length_replicate] at hlength
    exact List.countP_le_length.trans hlength
  have hcount : (List.replicate slashes '\\').countP isMark = slashes := by
    simp [List.countP_replicate, isMark]
  rw [runPieces, run, reading_append, reading_textPiece, List.countP_append, List.countP_append,
    hcount]
  split
  case isTrue hodd =>
    have htext := (unescape_sublist ('[' :: content ++ [']'])).countP_le (p := isMark)
    simp only [reading, Piece.bare, List.flatMap_singleton, List.cons_append] at htext ⊢
    omega
  case isFalse =>
    simp only [reading, bare_ofTag, List.flatMap_singleton, List.countP_nil, List.countP_cons]
    simp only [isMark]
    simp
    omega

/-- Marks are only left to a text without tags. -/
theorem IsRead.untagged (h : IsRead plain cs ps)
    (hcount : plain.countP isMark + cs.countP isMark ≤ (reading ps).countP isMark) :
    IsUntagged cs := by
  induction h with
  | done plain =>
    rintro rest hrest
    rw [List.suffix_nil.mp hrest]
    rfl
  | @tag plain slashes content rest ps htag hrest ih =>
    have hplain := (unescape_sublist plain.reverse).countP_le (p := isMark)
    have hrun := countP_runPieces_lt slashes content
    have htail := hrest.sublist.countP_le (p := isMark)
    simp only [reading_append, reading_textPiece, List.countP_append, List.countP_reverse,
      List.reverse_nil, List.nil_append] at hcount hplain htail
    omega
  | @char plain c cs ps hnone hrest ih =>
    rw [List.countP_cons] at ih hcount
    have htail := ih (by omega)
    intro rest hsuffix
    obtain rfl | hsuffix := List.suffix_cons_iff.mp hsuffix
    · exact hnone
    · exact htail rest hsuffix

theorem isInert_of_countP (hopen : ¬ ['\\'] <:+ cs)
    (hcount : cs.countP isMark ≤ (reading (pieces cs)).countP isMark) : IsInert cs := by
  have huntagged : IsUntagged cs := (isRead_pieces cs).untagged (by simpa using hcount)
  rw [huntagged.pieces_eq, reading_textPiece] at hcount
  exact ⟨huntagged, unescape_eq hcount, hopen⟩

/-! ## Text between tags -/

/-- What a text and the tag after it are read as. -/
def enclosed (cs content : List Char) : List Char := reading (pieces (cs ++ run 0 content))

theorem exists_eq_append_slashes (cs : List Char) :
    ∃ l k, cs = l ++ List.replicate k '\\' ∧ ¬ ['\\'] <:+ l := by
  induction cs using List.reverseRecOn with
  | nil => exact ⟨[], 0, rfl, by simp⟩
  | append_singleton cs c ih =>
    by_cases hc : c = '\\'
    · obtain ⟨l, k, rfl, hl⟩ := ih
      exact ⟨l, k + 1, by rw [hc, List.append_assoc, ← List.replicate_succ'], hl⟩
    · refine ⟨cs ++ [c], 0, by simp, fun hsuffix => hc ?_⟩
      exact (List.cons.inj (List.append_inj' hsuffix.choose_spec rfl).2).1.symm

theorem slashes_append_run (k : Nat) (content rest : List Char) :
    List.replicate k '\\' ++ (run 0 content ++ rest) = run k content ++ rest := by
  simp [run]

theorem pieces_nil : pieces [] = [] := rfl

theorem reading_nil : reading [] = [] := rfl

theorem reading_runPieces_zero (content : List Char) : reading (runPieces 0 content) = [] := by
  simp [runPieces, reading, bare_ofTag, textPiece]

theorem reading_slashes_append (hopen : ¬ ['\\'] <:+ l) (htag : IsTag content) (k : Nat)
    (rest : List Char) :
    reading (pieces (l ++ List.replicate k '\\' ++ (run 0 content ++ rest))) =
      reading (pieces l) ++ reading (runPieces k content) ++ reading (pieces rest) := by
  rw [List.append_assoc, slashes_append_run, pieces_append_run hopen htag, reading_append,
    reading_append]

theorem enclosed_slashes (hopen : ¬ ['\\'] <:+ l) (htag : IsTag content) (k : Nat) :
    enclosed (l ++ List.replicate k '\\') content =
      reading (pieces l) ++ reading (runPieces k content) := by
  have hreading := reading_slashes_append hopen htag k []
  rwa [pieces_nil, reading_nil, List.append_nil, List.append_nil] at hreading

theorem reading_pieces_append (htag : IsTag content) (cs rest : List Char) :
    reading (pieces (cs ++ (run 0 content ++ rest))) =
      enclosed cs content ++ reading (pieces rest) := by
  obtain ⟨l, k, rfl, hopen⟩ := exists_eq_append_slashes cs
  rw [enclosed_slashes hopen htag, reading_slashes_append hopen htag]

theorem enclosed_eq (htag : IsTag content) (hopen : ¬ ['\\'] <:+ cs) :
    enclosed cs content = reading (pieces cs) := by
  have henclosed := enclosed_slashes hopen htag 0
  rwa [List.replicate_zero, List.append_nil, reading_runPieces_zero, List.append_nil] at henclosed

theorem count_enclosed_le (hslash : '\\' ∉ content) (cs : List Char) :
    (enclosed cs content).count '\\' ≤ cs.count '\\' := by
  have hcount := (isRead_pieces (cs ++ run 0 content)).sublist.count_le '\\'
  have hrun : (run 0 content).count '\\' = 0 := by simp [run, List.count_eq_zero, hslash]
  rwa [List.reverse_nil, List.nil_append, List.count_append, hrun, Nat.add_zero] at hcount

/-- Half of the backslashes before a tag are lost. -/
theorem count_runPieces_le (hslash : '\\' ∉ content) (k : Nat) :
    (reading (runPieces k content)).count '\\' ≤ k / 2 := by
  have hslashes := (unescape_sublist (List.replicate (k / 2) '\\')).count_le '\\'
  rw [List.count_replicate_self] at hslashes
  rw [runPieces, reading_append, reading_textPiece, List.count_append]
  split
  case isTrue =>
    have htext := (unescape_sublist ('[' :: content ++ [']'])).count_le '\\'
    have hzero : ('[' :: content ++ [']']).count '\\' = 0 := by simp [List.count_eq_zero, hslash]
    simp only [reading, Piece.bare, List.flatMap_singleton] at htext ⊢
    omega
  case isFalse => simpa [reading, bare_ofTag] using hslashes

/-- A text that keeps its backslashes does not end with one. -/
theorem not_suffix_of_count (htag : IsTag content) (hslash : '\\' ∉ content)
    (hcount : cs.count '\\' ≤ (enclosed cs content).count '\\') : ¬ ['\\'] <:+ cs := by
  obtain ⟨l, k, rfl, hopen⟩ := exists_eq_append_slashes cs
  have hl := (isRead_pieces l).sublist.count_le '\\'
  have hrun := count_runPieces_le hslash k
  rw [enclosed_slashes hopen htag, List.count_append, List.count_append,
    List.count_replicate_self] at hcount
  obtain rfl : k = 0 := by
    rw [List.reverse_nil, List.nil_append] at hl
    omega
  rwa [List.replicate_zero, List.append_nil]

/-! ## The text that comes out -/

variable {styles : List String} {style : String}

/-- What comes out of pieces is their reading, if no pictograph is named. -/
theorem textOf_eq_ok (hnone : NamesNone ps) (h : textOf styles ps = .ok cs) : cs = reading ps := by
  have htail {p : Piece} {ps : List Piece} (hnone : NamesNone (p :: ps)) : NamesNone ps :=
    fun cs hcs => hnone cs (List.mem_cons_of_mem p hcs)
  induction styles, ps using textOf.induct generalizing cs with
  | case1 styles => exact (Except.ok.inj h).symm
  | case2 styles text rest ih =>
    rw [textOf] at h
    cases hrest : textOf styles rest with
    | error fault => simp [hrest, Except.map] at h
    | ok tail =>
      rw [hrest] at h
      rw [← Except.ok.inj h, ih (htail hnone) hrest, hnone text List.mem_cons_self]
      rfl
  | case3 styles name rest ih =>
    rw [textOf] at h
    exact ih (htail hnone) h
  | case4 rest => cases h
  | case5 rest style outer ih =>
    rw [textOf] at h
    exact ih (htail hnone) h
  | @case6 styles name rest hne style hopen ih =>
    rw [textOf, if_pos hopen] at h
    · exact ih (htail hnone) h
    · exact hne
  | @case7 styles name rest hne style hclosed =>
    rw [textOf, if_neg hclosed] at h
    · cases h
    · exact hne

theorem replaceFrom_eq (h : ':' ∉ cs) : Pictograph.replaceFrom 0 cs = cs := by
  induction cs with
  | nil => rfl
  | cons c cs ih =>
    rw [List.mem_cons, not_or] at h
    have hc : (c == ':') = false := beq_eq_false_iff_ne.mpr (Ne.symm h.1)
    rw [Pictograph.replaceFrom, hc, ih h.2]
    rfl

/-- Markup without colons names no pictograph. -/
theorem namesNone_of_not_mem (h : ':' ∉ cs) : NamesNone (pieces cs) := by
  intro text htext
  have hmem : (unescape text).Sublist (reading (pieces cs)) :=
    List.sublist_flatten_of_mem (List.mem_map_of_mem (f := Piece.bare) htext)
  exact replaceFrom_eq fun hcolon => h ((hmem.trans (isRead_pieces cs).sublist).subset hcolon)

theorem textOf_textPiece (cs : List Char) (ps : List Piece) :
    textOf styles (textPiece cs ++ ps) = (textOf styles ps).map (shown cs ++ ·) := by
  cases cs with
  | nil =>
    have hnil : shown [] = [] := rfl
    cases h : textOf styles ps <;> simp [textPiece, hnil, Except.map, h]
  | cons c cs => rfl

/-- A text between the tags of a style comes out as it is shown, and the style is closed after it. -/
theorem textOf_tagged (h : IsStyleName style) (cs : List Char) (ps : List Piece) :
    textOf styles (runPieces 0 style.toList ++ (textPiece cs ++
      (runPieces 0 (closing style) ++ ps))) = (textOf styles ps).map (shown cs ++ ·) := by
  have hclose : textOf (Style.canonical style :: styles) (.closing style :: ps) =
      textOf styles ps := by
    rw [textOf]
    · simp
    · exact h.ne_empty
  simp only [runPieces, h.opens, h.closes]
  change textOf (Style.canonical style :: styles) (textPiece cs ++ (.closing style :: ps)) = _
  rw [textOf_textPiece, hclose]

end Workbench.Console.Markup
