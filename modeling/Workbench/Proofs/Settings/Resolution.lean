import Workbench.Proofs.Settings.Merging

/-!
# How settings resolve

Settings are told by single settings: whatever the sources are, each setting is what counts for it,
and where the sources spell the members of the connection in one way that is what the first source
says that mentions the setting. So a source changes nothing that a higher one sets, and no setting
but those it mentions.
-/
namespace Workbench.Settings

open Json (Value)

variable {s s' : Sources} {r : Settings} {layer : Layer} {l : Leaf}

/-- The first of two sources stands above the second. -/
def Layer.IsAbove (high low : Layer) : Prop := [high, low].Sublist Layer.all

instance (high low : Layer) : Decidable (high.IsAbove low) :=
  inferInstanceAs (Decidable ([high, low].Sublist Layer.all))

/-- What the settings of some sources are, told by single settings. -/
structure ResolvesLeafwise (s : Sources) : Prop where
  /-- The sources resolve to just the settings that come of what counts for each of them, unless the
  document has a name that is no text. -/
  resolves : ∀ r : Settings, s.resolve = .ok r ↔
    s.IsNamed ∧ ∀ l : Leaf, l.settle (s.effective? l) = .good (r.leaf l)
  /-- What counts is what the first source says that mentions the setting, if it is not a member of
  the connection that the sources spell in several ways. -/
  ranked : ∀ l : Leaf, (l.isMember = true → s.IsUniform l) → s.effective? l = s.first? l
  /-- The base address is what is given for it without its trailing slashes. -/
  trimmed : ∀ r : Settings, s.resolve = .ok r → r.service.baseUrl.toList.getLast? ≠ some '/' ∧
    ∀ url, s.effective? .baseUrl = some (.string url) →
      ∃ k, url.toList = r.service.baseUrl.toList ++ List.replicate k '/'
  /-- What one source says of a setting makes no difference if a higher one mentions it. -/
  shadowed : s.IsOrderly → ∀ (s' : Sources) (high low : Layer) (l : Leaf), s'.IsOrderly →
    s.AltersOnly s' low l → high.IsAbove low → (s.mention? high l).isSome →
    ∀ r : Settings, s'.resolve = .ok r ↔ s.resolve = .ok r
  /-- What one source says of a setting makes a difference to that setting at most. -/
  separate : s.IsOrderly → ∀ (s' : Sources) (layer : Layer) (l : Leaf), s'.IsOrderly →
    s.AltersOnly s' layer l → ∀ r : Settings, s.resolve = .ok r →
    ∀ a, l.settle (s'.first? l) = .good a →
      ∃ r' : Settings, s'.resolve = .ok r' ∧ r'.leaf l = a ∧ ∀ l', l' ≠ l → r'.leaf l' = r.leaf l'

/-! ## Single settings -/

theorem resolve_eq_ok_iff_settle (h : s.GivesMappings) :
    s.resolve = .ok r ↔
      s.IsNamed ∧ ∀ l : Leaf, l.settle (s.effective? l) = .good (r.leaf l) := by
  obtain ⟨hnamed, given, hmerged, hmerges⟩ | ⟨hnamed, f, hmerged⟩ := exists_merges h
  case inr =>
    have hresolve : s.resolve = .error f := by
      rw [Sources.resolve, hmerged]
      rfl
    rw [hresolve]
    exact iff_of_false (fun h => by cases h) fun h => hnamed h.1.settings
  have hplain (l : Leaf) (hl : l.isMember = false) :
      s.effective? l = (given.lookup l.name).map plainValue := by
    rw [hmerges.plain l hl]
    simp [Sources.effective?, Sources.first?, Sources.fallback?, hl]
  have hmember (l : Leaf) (hl : l.isMember = true) :
      s.effective? l = (firstOf? l.name given.connection.members).or (s.fallback? l) := by
    rw [hmerges.member l hl, Sources.effective?, if_pos hl]
  rw [resolve_eq_ok_iff hmerged hmerges.mapping, readService_eq_good, hmerges.named,
    ← hmember .baseUrl rfl, ← hmember .timeout rfl]
  constructor
  · rintro ⟨hmembers, ⟨hurl, htime⟩, hrest⟩
    refine ⟨⟨hnamed, hmembers⟩, fun l => ?_⟩
    cases hl : l.isMember with
    | true =>
      exact Leaf.forall_isMember (p := fun l => l.settle (s.effective? l) = .good (r.leaf l))
        |>.mpr ⟨hurl, htime⟩ l hl
    | false => exact hplain l hl ▸ hrest l hl
  · rintro ⟨hall, hleaves⟩
    exact ⟨hall.members, ⟨hleaves .baseUrl, hleaves .timeout⟩, fun l hl =>
      hplain l hl ▸ hleaves l⟩

theorem resolve_eq_ok_iff_first? (h : s.IsOrderly) :
    s.resolve = .ok r ↔ ∀ l : Leaf, l.settle (s.first? l) = .good (r.leaf l) := by
  rw [resolve_eq_ok_iff_settle h.toGivesMappings, and_iff_right h.toIsNamed]
  exact forall_congr' fun l => by rw [Sources.effective?_eq_first? (h.uniform l)]

/-- A base address that is settled does not end in slashes. -/
theorem settle_baseUrl {given : Option Value} {base : String}
    (h : Leaf.baseUrl.settle given = .good base) :
    base.toList.getLast? ≠ some '/' ∧ ∀ url, given = some (.string url) →
      ∃ k, url.toList = base.toList ++ List.replicate k '/' := by
  cases given with
  | none =>
    obtain rfl : ServiceSettings.defaultBaseUrl = base := Record.Checked.good.inj h
    exact ⟨by decide, fun url hurl => by cases hurl⟩
  | some v =>
    obtain ⟨text, htext, rfl⟩ := Record.map_eq_good.mp h
    refine ⟨getLast?_trimSlashes text, ?_⟩
    rintro url hurl
    cases hurl
    obtain rfl : url = text := Record.Checked.good.inj htext
    exact trimSlashes_eq url

/-! ## Sources that differ in one place -/

/-- Answers that differ only behind one of the answers come to the same first answer. -/
theorem findSome?_eq_of_sublist {α β : Type} {xs : List α} {a b : α} {f g : α → Option β}
    (hnodup : xs.Nodup) (h : [a, b].Sublist xs) (hf : (f a).isSome) (hg : ∀ x, x ≠ b → g x = f x) :
    xs.findSome? g = xs.findSome? f := by
  induction xs with
  | nil => cases h
  | cons x xs ih =>
    obtain ⟨hx, hnodup⟩ := List.nodup_cons.mp hnodup
    rw [List.findSome?_cons, List.findSome?_cons]
    cases h with
    | cons _ h =>
      have hb : b ∈ xs := h.subset (by simp)
      rw [hg x fun heq => hx (heq ▸ hb), ih hnodup h]
    | cons_cons _ h =>
      have hb : b ∈ xs := List.singleton_sublist.mp h
      rw [hg a fun heq => hx (heq ▸ hb)]
      obtain ⟨v, hv⟩ := Option.isSome_iff_exists.mp hf
      rw [hv]

theorem first?_eq_of_ne (h : s.AltersOnly s' layer l) {l' : Leaf} (hl : l' ≠ l) :
    s'.first? l' = s.first? l' := by
  unfold Sources.first?
  simp only [h.fallback, h.mention _ _ fun heq => hl heq.2]

theorem first?_eq_of_isAbove {high : Layer} (h : s.AltersOnly s' layer l)
    (habove : high.IsAbove layer) (hsome : (s.mention? high l).isSome) (l' : Leaf) :
    s'.first? l' = s.first? l' := by
  by_cases hl : l' = l
  · subst hl
    have hnodup : Layer.all.Nodup := by decide
    rw [Sources.first?, Sources.first?, h.fallback, findSome?_eq_of_sublist hnodup habove hsome
      fun other hother => h.mention other l' fun heq => hother heq.1]
  · exact first?_eq_of_ne h hl

/-- Sources that give mappings for the connection resolve by single settings. -/
theorem resolves_leafwise (h : s.GivesMappings) : ResolvesLeafwise s where
  resolves r := resolve_eq_ok_iff_settle h
  ranked l hl := Sources.effective?_eq_first? hl
  trimmed r hr := settle_baseUrl (((resolve_eq_ok_iff_settle h).mp hr).2 .baseUrl)
  shadowed hs s' high low l hs' halters habove hsome r := by
    rw [resolve_eq_ok_iff_first? hs, resolve_eq_ok_iff_first? hs']
    simp only [first?_eq_of_isAbove halters habove hsome]
  separate hs s' layer l hs' halters r hr a ha := by
    rw [resolve_eq_ok_iff_first? hs] at hr
    let value (l' : Leaf) : l'.Kind := if heq : l' = l then heq ▸ a else r.leaf l'
    refine ⟨ofLeaves value, (resolve_eq_ok_iff_first? hs').mpr fun l' => ?_, ?_, fun l' hl => ?_⟩
    · rw [leaf_ofLeaves]
      by_cases heq : l' = l
      · subst heq
        simpa [value] using ha
      · rw [first?_eq_of_ne halters heq, hr l']
        simp [value, heq]
    · simp [value]
    · simp [value, hl]

/-! ## Sources of every kind -/

/-- Sources of every kind, some with the base address, some with the width of an indent and some
with the window of validation. -/
def layeredSources : Sources where
  arguments := [("debounce_ms", .int 60)]
  environment := [("J2J_STUDIO_SERVICE", "\x7b\"base_url\": \"http://json\"\x7d"),
    ("j2j_studio_service__base_url", "http://own/"), ("J2J_STUDIO_DEBOUNCE_MS", "none"),
    ("J2J_STUDIO_SERVICE_TIMEOUT_S", "8")]
  dotenv := some "J2J_STUDIO_RENDER_INDENT=3"
  document := some "service: \x7bbase_url: x\x7d\nRENDER_INDENT: 4\n"

/-- What they resolve to. -/
def layeredSettings : Settings where
  service := { baseUrl := "http://own", timeout := .ofInt 8 }
  debounceMs := 60
  renderMaxDepth := none
  renderIndent := 3
  autoTransform := false

/-- The window of validation in the arguments, and another one in the environment. -/
def shadowedWindow (window : String) : Sources where
  arguments := [("debounce_ms", .int 60)]
  environment := [("J2J_STUDIO_DEBOUNCE_MS", window)]

theorem altersOnly_shadowedWindow (window window' : String) :
    (shadowedWindow window).AltersOnly (shadowedWindow window') (.held .environment)
      .debounceMs where
  mention other l' h := by
    have hdotenv (window : String) : (shadowedWindow window).held .dotenv = [] := rfl
    have hwhole :
        Text.sameAsciiCase (namePrefix ++ "service") "J2J_STUDIO_DEBOUNCE_MS" = false := by decide
    obtain _ | (_ | _) | _ := other <;> cases hl : l'.isMember <;>
      simp only [Sources.mention?, hl, Sources.object, Sources.connection?, hdotenv]
    case held.environment.false =>
      have hname :
          Text.sameAsciiCase (namePrefix ++ l'.name) "J2J_STUDIO_DEBOUNCE_MS" = false := by
        cases l' <;> first | exact absurd ⟨rfl, rfl⟩ h | decide
      simp [textOf?, lastOf?_singleton hname, Sources.held, shadowedWindow]
    case held.environment.true =>
      have hname :
          Text.sameAsciiCase (memberPrefix ++ l'.name) "J2J_STUDIO_DEBOUNCE_MS" = false := by
        cases l' <;> decide
      have hinside : isInside l'.name "J2J_STUDIO_DEBOUNCE_MS" = false := by cases l' <;> decide
      simp [ownVariable?, textOf?, lastOf?_singleton hname, lastOf?_singleton hwhole, hinside,
        Sources.held, shadowedWindow]
    all_goals rfl
  fallback l' := by
    have hname : Text.sameAsciiCase (namePrefix ++ ("service_" ++ l'.name))
        "J2J_STUDIO_DEBOUNCE_MS" = false := by cases l' <;> decide
    simp [Sources.fallback?, textOf?, lastOf?_singleton hname, Sources.held, shadowedWindow]

/-- Each setting comes from the first source that mentions it. A window of validation in the
environment that is no number is as good as any other below the arguments. -/
theorem resolves_leafwise_layered :
    layeredSources.IsOrderly ∧ layeredSources.resolve = .ok layeredSettings ∧
    ∀ r : Settings, (shadowedWindow "none").resolve = .ok r ↔
      (shadowedWindow "50").resolve = .ok r := by
  have horderly : layeredSources.IsOrderly := by decide +kernel
  have h := resolves_leafwise horderly.toGivesMappings
  have hsettle : ∀ l ∈ Leaf.all,
      (l.settle (layeredSources.first? l)).toOption = some (layeredSettings.leaf l) := by
    decide +kernel
  have hwindow : (shadowedWindow "50").IsOrderly := by decide +kernel
  refine ⟨horderly, (h.resolves _).mpr ⟨horderly.toIsNamed, fun l => ?_⟩, ?_⟩
  · rw [h.ranked l (horderly.uniform l)]
    exact Record.Checked.toOption_eq_some.mp (hsettle l l.mem_all)
  · exact (resolves_leafwise hwindow.toGivesMappings).shadowed hwindow _ .arguments
      (.held .environment) .debounceMs (by decide +kernel) (altersOnly_shadowedWindow _ _)
      (by decide) rfl

/-! ## A member that is spelled in two ways -/

/-- The base address in the environment and, in capital letters, in the document. -/
def overruledSources : Sources where
  environment := [("J2J_STUDIO_SERVICE__BASE_URL", "http://e")]
  document := some "service: \x7bBASE_URL: http://y\x7d\n"

/-- The environment and the document each give a fitting base address and nothing else. The one in
the document counts, since it is spelled in another way. -/
theorem document_overrules_environment :
    overruledSources.GivesMappings ∧ overruledSources.IsNamed ∧ ∃ told r : Settings,
      (∀ l : Leaf, l.settle (overruledSources.first? l) = .good (told.leaf l)) ∧
      told.service.baseUrl = "http://e" ∧
      overruledSources.resolve = .ok r ∧ r.service.baseUrl = "http://y" := by
  let withBase (base : String) : Settings :=
    let defaults := ofLeaves Leaf.default
    { defaults with service := { defaults.service with baseUrl := base } }
  have htold : ∀ l ∈ Leaf.all, (l.settle (overruledSources.first? l)).toOption =
      some ((withBase "http://e").leaf l) := by decide +kernel
  have hresolve : overruledSources.resolve.toOption = some (withBase "http://y") := by
    decide +kernel
  refine ⟨by decide +kernel, by decide +kernel, withBase "http://e", withBase "http://y",
    fun l => ?_, rfl, ?_, rfl⟩
  · exact Record.Checked.toOption_eq_some.mp (htold l l.mem_all)
  · cases h : overruledSources.resolve with
    | ok r => simpa [h, Except.toOption] using hresolve
    | error f => simp [h, Except.toOption] at hresolve

end Workbench.Settings
