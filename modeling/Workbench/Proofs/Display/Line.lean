import Workbench.Display.Line
import Workbench.Proofs.Console.Markup

/-!
# Status lines as they are read

The status of a buffer is put into markup as it is, between tags. It is shown literally exactly when
its label and its detail are inert, as far as no pictograph is named in it; in the terminal studio
it always is.
-/
namespace Workbench.Display

open Console.Markup
open Document (Level Status)

/-- A label, and the detail after a gap. -/
def spaced (gap : String) (s : Status) : String :=
  s.label ++
    match s.detail? with
    | some detail => gap ++ detail
    | none => ""

/-- Is the text of a status shown literally where it is read as markup? -/
def IsLiteral (s : Status) : Prop :=
  plain (statusMarkup s) = .ok (Styled.clean (spaced " " s)).toList

variable {s : Status} {style : String} {content : List Char}

theorem toList_tagged (style text : String) : (tagged style text).toList =
    run 0 style.toList ++ (text.toList ++ run 0 (closing style)) := by
  simp [tagged, run, closing]

theorem isStyleName_style (level : Level) : IsStyleName level.style := by
  cases level <;>
    exact ⟨by decide +kernel, by decide +kernel, by decide +kernel, by decide +kernel,
      by decide +kernel, by decide⟩

theorem isStyleName_dim : IsStyleName "dim" := isStyleName_style .pending

/-! ## What is kept -/

theorem count_filter_kept {c : Char} (h : Styled.isDropped c = false) (cs : List Char) :
    (cs.filter (!Styled.isDropped ·)).count c = cs.count c :=
  List.count_filter (by simpa using h)

theorem countP_filter_kept (cs : List Char) :
    (cs.filter (!Styled.isDropped ·)).countP isMark = cs.countP isMark := by
  rw [List.countP_filter]
  refine List.countP_congr fun c _ => ?_
  simp only [isMark, Bool.and_eq_true, Bool.or_eq_true, beq_iff_eq, Bool.not_eq_true']
  refine ⟨And.left, fun h => ⟨h, ?_⟩⟩
  obtain rfl | rfl := h <;> rfl

/-! ## The line of a status -/

theorem reading_tag (h : IsTag content) (cs : List Char) :
    reading (pieces (run 0 content ++ cs)) = reading (pieces cs) := by
  have hreading := reading_pieces_append h [] cs
  rwa [enclosed_eq h (by simp), pieces_nil, reading_nil] at hreading

theorem reading_tagged (h : IsStyleName style) (text : String) (cs : List Char) :
    reading (pieces ((tagged style text).toList ++ cs)) =
      enclosed text.toList (closing style) ++ reading (pieces cs) := by
  rw [toList_tagged, List.append_assoc, List.append_assoc, reading_tag h.tag]
  exact reading_pieces_append h.closing_tag _ _

theorem pieces_space_tagged (h : IsStyleName style) (text : String) :
    pieces (" " ++ tagged style text).toList =
      textPiece [' '] ++ pieces ((tagged style text).toList ++ []) := by
  have hspace : pieces [' '] = textPiece [' '] := by decide
  have hopen : ¬ ['\\'] <:+ [' '] := by decide
  rw [String.toList_append, List.append_nil, toList_tagged, pieces_run_append h.tag,
    ← List.append_assoc, ← hspace]
  exact pieces_append_run hopen h.tag 0 _

/-- What the line of a status is read as: each text with the tag after it. -/
theorem reading_statusMarkup (s : Status) : reading (pieces (statusMarkup s).toList) =
    enclosed s.label.toList (closing s.level.style) ++
      match s.detail? with
      | some detail => ' ' :: enclosed detail.toList (closing "dim")
      | none => [] := by
  rw [statusMarkup, String.toList_append, reading_tagged (isStyleName_style s.level)]
  cases s.detail? with
  | none => rfl
  | some detail =>
    dsimp only
    rw [pieces_space_tagged isStyleName_dim, reading_append, reading_tagged isStyleName_dim,
      pieces_nil, reading_nil, List.append_nil]
    rfl

/-- What the line is read as has the marks of the texts. -/
theorem IsLiteral.marks (h : IsLiteral s) (hnone : NamesNone (pieces (statusMarkup s).toList)) :
    (reading (pieces (statusMarkup s).toList)).count '\\' = (spaced " " s).toList.count '\\' ∧
      (reading (pieces (statusMarkup s).toList)).countP isMark =
        (spaced " " s).toList.countP isMark := by
  unfold IsLiteral plain at h
  cases htext : textOf [] (pieces (statusMarkup s).toList) with
  | error fault => simp [htext, Except.map] at h
  | ok cs =>
    obtain rfl := textOf_eq_ok hnone htext
    rw [htext, Styled.clean, String.toList_ofList] at h
    have hkept : (reading (pieces (statusMarkup s).toList)).filter (!Styled.isDropped ·) =
        (spaced " " s).toList.filter (!Styled.isDropped ·) := Except.ok.inj h
    refine ⟨?_, ?_⟩
    · rw [← count_filter_kept (by rfl), hkept, count_filter_kept (by rfl)]
    · rw [← countP_filter_kept, hkept, countP_filter_kept]

theorem countP_reading_le (cs : List Char) : (reading (pieces cs)).countP isMark ≤ cs.countP isMark :=
  (isRead_pieces cs).sublist.countP_le

theorem isInert_of_isLiteral (hnone : NamesNone (pieces (statusMarkup s).toList))
    (h : IsLiteral s) : IsInert s.label.toList ∧ ∀ d, s.detail? = some d → IsInert d.toList := by
  have hstyle := isStyleName_style s.level
  have hdim := isStyleName_dim
  obtain ⟨hcount, hmarks⟩ := h.marks hnone
  rw [reading_statusMarkup, spaced] at hcount hmarks
  have hlabel := count_enclosed_le hstyle.no_slash s.label.toList
  cases hdetail : s.detail? with
  | none =>
    simp only [hdetail, List.append_nil, String.append_empty] at hcount hmarks
    have hopen := not_suffix_of_count hstyle.closing_tag hstyle.no_slash hcount.ge
    rw [enclosed_eq hstyle.closing_tag hopen] at hmarks
    exact ⟨isInert_of_countP hopen hmarks.ge, nofun⟩
  | some d =>
    have hd := count_enclosed_le hdim.no_slash d.toList
    have hgap : " ".toList = [' '] := rfl
    simp only [hdetail, String.toList_append, hgap, List.count_append, List.countP_append,
      List.count_cons, List.countP_cons, List.count_nil, List.countP_nil] at hcount hmarks
    have hopen : ¬ ['\\'] <:+ s.label.toList :=
      not_suffix_of_count hstyle.closing_tag hstyle.no_slash (by omega)
    have hopen' : ¬ ['\\'] <:+ d.toList :=
      not_suffix_of_count hdim.closing_tag hdim.no_slash (by omega)
    rw [enclosed_eq hstyle.closing_tag hopen,
      enclosed_eq hdim.closing_tag hopen'] at hmarks
    have hreading := countP_reading_le s.label.toList
    have hreading' := countP_reading_le d.toList
    refine ⟨isInert_of_countP hopen (by omega), ?_⟩
    rintro _ ⟨⟩
    exact isInert_of_countP hopen' (by omega)

/-- The pieces of an inert text between tags. -/
theorem pieces_tagged (h : IsStyleName style) {text : String} (htext : IsInert text.toList)
    (cs : List Char) : pieces ((tagged style text).toList ++ cs) =
      runPieces 0 style.toList ++ (textPiece text.toList ++
        (runPieces 0 (closing style) ++ pieces cs)) := by
  rw [toList_tagged, List.append_assoc, List.append_assoc, pieces_run_append h.tag,
    pieces_append_run htext.open_end h.closing_tag, htext.untagged.pieces_eq, List.append_assoc]

/-- An inert text between tags comes out as it is. -/
theorem textOf_pieces_tagged (h : IsStyleName style) {text : String} (htext : IsInert text.toList)
    {cs : List Char} (hnone : NamesNone (pieces ((tagged style text).toList ++ cs))) :
    textOf [] (pieces ((tagged style text).toList ++ cs)) =
      (textOf [] (pieces cs)).map (text.toList ++ ·) := by
  have hpieces := pieces_tagged h htext cs
  have hshown : shown text.toList = text.toList := by
    generalize text.toList = l at htext hpieces ⊢
    cases l with
    | nil => rfl
    | cons c l =>
      refine (hnone (c :: l) ?_).trans htext.unescaped
      rw [hpieces]
      simp [textPiece]
  rw [hpieces, textOf_tagged h, hshown]

theorem isLiteral_of_isInert (hnone : NamesNone (pieces (statusMarkup s).toList))
    (hlabel : IsInert s.label.toList) (hdetail : ∀ d, s.detail? = some d → IsInert d.toList) :
    IsLiteral s := by
  have hstyle := isStyleName_style s.level
  rw [statusMarkup, String.toList_append] at hnone
  rw [IsLiteral, plain, statusMarkup, String.toList_append, textOf_pieces_tagged hstyle hlabel hnone,
    spaced, Styled.clean, String.toList_ofList, String.toList_append]
  cases hd : s.detail? with
  | none => rfl
  | some d =>
    rw [hd] at hnone
    dsimp only at hnone ⊢
    rw [pieces_tagged hstyle hlabel, pieces_space_tagged isStyleName_dim] at hnone
    have hdim : NamesNone (pieces ((tagged "dim" d).toList ++ [])) :=
      fun cs hcs => hnone cs (by simp only [List.mem_append, hcs, or_true])
    rw [pieces_space_tagged isStyleName_dim, textOf_textPiece,
      textOf_pieces_tagged isStyleName_dim (hdetail d hd) hdim, String.toList_append]
    have hspace : shown [' '] = [' '] := by decide
    simp [hspace, pieces_nil, textOf, Except.map]

/-- A status is shown literally where it is read as markup exactly if its label and its detail are
inert, provided that its line names no pictograph. In the terminal studio, a status that is not
valid always is, after its sign. -/
theorem isLiteral_iff (hnone : NamesNone (pieces (statusMarkup s).toList)) :
    (IsLiteral s ↔ IsInert s.label.toList ∧ ∀ d, s.detail? = some d → IsInert d.toList) ∧
      (s.level ≠ .valid →
        (statusLine s).plain = Styled.clean (icon s.level ++ " " ++ spaced "  " s)) := by
  refine ⟨⟨isInert_of_isLiteral hnone, fun h => isLiteral_of_isInert hnone h.1 h.2⟩, fun hlevel => ?_⟩
  unfold statusLine spaced
  cases s.detail? with
  | none => simp [Styled.Text.ofString]
  | some d =>
    have hspace : Styled.isDropped ' ' = false := rfl
    simp [hlevel, Styled.Text.ofString, Styled.Text.append, Styled.clean, hspace,
      String.append_assoc]

/-- The status of a draft in which the service found this fault. -/
def faulty (detail : String) : Status := .error "Error" (some detail)

theorem isInert_error : IsInert "Error".toList :=
  isInert_of_countP (by decide) (by decide +kernel)

/-- A bracket before a digit is shown literally. -/
theorem isLiteral_iff_index :
    NamesNone (pieces (statusMarkup (faulty "no item [5]")).toList) ∧
      IsLiteral (faulty "no item [5]") ∧ (faulty "no item [5]").level ≠ .valid ∧
      (statusLine (faulty "no item [5]")).plain = "✖ Error  no item [5]" := by
  have hnone : NamesNone (pieces (statusMarkup (faulty "no item [5]")).toList) :=
    namesNone_of_not_mem (by decide +kernel)
  obtain ⟨hliteral, hline⟩ := isLiteral_iff hnone
  refine ⟨hnone, hliteral.mpr ⟨isInert_error, ?_⟩, by decide,
    (hline (by decide)).trans (by decide +kernel)⟩
  rintro d ⟨⟩
  exact isInert_of_countP (by decide +kernel) (by decide +kernel)

/-- What comes out of the line of a faulty draft, its label apart. -/
theorem textOf_faulty {detail : String} (hdetail : (faulty detail).detail? = some detail)
    (hnone : ':' ∉ (statusMarkup (faulty detail)).toList) :
    textOf [] (pieces (statusMarkup (faulty detail)).toList) =
      (textOf [] (pieces (" " ++ tagged "dim" detail).toList)).map ("Error".toList ++ ·) := by
  have hmarkup : (statusMarkup (faulty detail)).toList =
      (tagged "red" "Error").toList ++ (" " ++ tagged "dim" detail).toList := by
    rw [statusMarkup, hdetail, String.toList_append]
    rfl
  have hnames := namesNone_of_not_mem hnone
  rw [hmarkup] at hnames ⊢
  exact textOf_pieces_tagged (isStyleName_style .error) isInert_error hnames

/-- Other brackets vanish or leave the line ill-formed, though not in the terminal studio. -/
theorem brackets_not_literal :
    ¬ IsLiteral (faulty "no item [i]") ∧ ¬ IsLiteral (faulty "no item [/i]") ∧
      (plain (statusMarkup (faulty "no item [i]"))).toOption = some "Error no item ".toList ∧
      (plain (statusMarkup (faulty "no item [/i]"))).toOption = none ∧
      (statusLine (faulty "no item [i]")).plain = "✖ Error  no item [i]" ∧
      (statusLine (faulty "no item [/i]")).plain = "✖ Error  no item [/i]" := by
  have hvanished : (plain (statusMarkup (faulty "no item [i]"))).toOption =
      some "Error no item ".toList := by
    rw [plain, textOf_faulty (by decide +kernel) (by decide +kernel)]
    decide +kernel
  have hrefused : (plain (statusMarkup (faulty "no item [/i]"))).toOption = none := by
    rw [plain, textOf_faulty (by decide +kernel) (by decide +kernel)]
    decide +kernel
  refine ⟨fun h => ?_, fun h => ?_, hvanished, hrefused, by decide +kernel, by decide +kernel⟩
  · rw [h] at hvanished
    exact absurd (Option.some.inj hvanished) (by decide +kernel)
  · rw [h] at hrefused
    cases hrefused

end Workbench.Display
