import Workbench.Proofs.Settings.Variables

/-!
# What each source gives, and all of them merged

Each source gives, under the names of the settings, just what it says of the single settings, and
for the connection a mapping that has the members it offers. Merging what two sources give is
choosing for each single setting, and putting the members of the one connection over those of the
other. So once all sources are merged each single setting is read from what the first source that
mentions it says, and each member of the connection from what counts for it.
-/
namespace Workbench.Settings

open Json (Members Value)
open Record (Checked)
open Workbench.Tree (Node)

variable {s : Sources} {layer : Layer} {l : Leaf} {high low given : Given} {r : Settings}

/-- The members of the connection as a source gives it. -/
def Given.connection (given : Given) : Entries := entriesOf (given.lookup "service")

/-- What is given for the connection is a mapping. -/
def GivesMapping (given : Given) : Prop :=
  ∀ v, given.lookup "service" = some v → ∃ es, v = .mapping es

/-- A source gives what it says. -/
structure Tells (s : Sources) (layer : Layer) (given : Given) : Prop where
  plain : ∀ l : Leaf, l.isMember = false →
    (given.lookup l.name).map plainValue = s.mention? layer l
  mapping : GivesMapping given
  spelled : ∀ l : Leaf, l.isMember = true →
    spellings l.name given.connection.members = spellings l.name (s.offered layer)

/-- The names of the connection are texts, and none is repeated. -/
structure IsProper (given : Given) : Prop where
  named : given.connection.AreNamed
  nodup : (given.connection.members.map Prod.fst).Nodup

/-! ## Variables -/

/-- A name that is spelled as itself only, and once. -/
theorem spellings_eq_of_alike {name : String} {ms : Members} (hnodup : (ms.map Prod.fst).Nodup)
    (h : ∀ m ∈ spellings name ms, m.1 = name) :
    spellings name ms = ((ms.get? name).map fun v => (name, v)).toList := by
  have hnodup' : ((spellings name ms).map Prod.fst).Nodup := Members.nodup_restrict hnodup
  rw [get?_eq_firstOf? (Text.sameAsciiCase_self name) h, firstOf?]
  rcases hms : spellings name ms with _ | ⟨m, _ | ⟨m', rest⟩⟩
  · rfl
  · simp [← h m (hms ▸ List.mem_cons_self)]
  · have heq : m.1 = m'.1 := (h m (by simp [hms])).trans (h m' (by simp [hms])).symm
    simp [hms, heq] at hnodup'

/-- Of members that are put over an object, of which one has just this name, that one takes its
place. -/
theorem lastOf?_over {name : String} {own : Members} (hnodup : (own.map Prod.fst).Nodup)
    (h : ∀ m ∈ spellings name own, m.1 = name) (ms : Members) :
    lastOf? name (own.putOver ms) = lastOf? name (match own.get? name with
      | some v => ms.put name v
      | none => ms) := by
  have hover : spellings name (own.putOver ms) =
      Members.putOver (spellings name own) (spellings name ms) :=
    Members.restrict_putOver (Text.sameAsciiCase name) own ms
  rw [lastOf?, hover, spellings_eq_of_alike hnodup h]
  cases own.get? name with
  | none => rfl
  | some v => rw [lastOf?, spellings_put]; rfl

theorem areNamed_ofMembers (ms : Members) : Entries.AreNamed (Node.ofMembers ms) := by
  induction ms with
  | nil => exact Entries.areNamed_nil
  | cons m ms ih => exact Entries.areNamed_cons.mpr ⟨⟨m.1, rfl⟩, ih⟩

theorem areNamed_of_ofJson {v : Value} {es : Entries} (h : Node.ofJson v = .mapping es) :
    es.AreNamed := by
  cases v <;> simp [Node.ofJson] at h
  exact h ▸ areNamed_ofMembers _

/-- The variables of the connection come to the members of their own put over those of the
object. -/
theorem serviceValue?_eq (source : VariableSource) {vars : Dotenv.Variables}
    (h : ∀ v, (textOf? "service" vars).map ofText = some v → ∃ es, v = .mapping es) :
    ∃ c, serviceValue? source (lowerNames vars) = .ok c ∧
      (∀ v, c = some v → ∃ es, v = .mapping es) ∧
      ∃ es : Entries, entriesOf c = respelled ServiceSettings.names es ∧ es.AreNamed ∧
        es.members = (serviceMembers (lowerNames vars)).members.putOver
          (entriesOf ((textOf? "service" vars).map ofText)).members := by
  have hheld := areHeld_serviceMembers vars
  have hlower : Text.IsLower "service" := by decide
  unfold serviceValue?
  rw [valueOf?_lowerNames hlower]
  cases htext : textOf? "service" vars with
  | none =>
    have hover := (Members.putOver_empty hheld.nodup).symm
    refine ⟨_, rfl, ?_, serviceMembers (lowerNames vars), ?_, hheld.named, hover⟩
    · intro v hv
      split at hv
      · cases hv
      · exact ⟨_, (Option.some.inj hv).symm⟩
    · split
      case isTrue hempty => rw [List.isEmpty_iff.mp hempty]; rfl
      case isFalse => rfl
  | some text =>
    obtain ⟨es, hof⟩ := h (ofText text) (by rw [htext]; rfl)
    have hes := hof
    rw [ofText] at hes
    split at hes
    case h_2 => cases hes
    case h_1 v hv =>
      have hnamed := areNamed_of_ofJson hes
      have hmembers : (entriesOf (some (ofText text))).members = Entries.members es := by
        rw [hof, entriesOf]
      refine ⟨some (.mapping (respelled ServiceSettings.names
        (overlayEntries es (serviceMembers (lowerNames vars))))), ?_, ?_,
        overlayEntries es (serviceMembers (lowerNames vars)), rfl, ?_, ?_⟩
      · simp only [hv, hes]
      · exact fun v hv => ⟨_, (Option.some.inj hv).symm⟩
      · exact (areNamed_overlayEntries hheld.named es).mpr hnamed
      · rw [members_overlayEntries hheld.named, Option.map_some, hmembers]

/-- What variables come to is looked up under the name of the connection and of the other
settings. -/
theorem lookup_table_service (c : Option Node) (value : String → Option Node) (name : String) :
    List.lookup name ((c.map fun v => ("service", v)).toList ++
      plainNames.filterMap fun n => (value n).map fun v => (n, v)) =
      if name = "service" then c else if name ∈ plainNames then value name else none := by
  have hplain : "service" ∉ plainNames := by decide
  rw [List.lookup_append, lookup_table]
  by_cases h : name = "service"
  · subst h
    cases c <;> simp [hplain]
  · cases c <;> simp [lookup_cons_eq, h]

theorem isLower_name (l : Leaf) : Text.IsLower l.name := by
  cases l <;> decide

theorem name_ne_service (l : Leaf) : l.name ≠ "service" := by
  cases l <;> decide

/-- A source of variables gives what it says. -/
theorem tells_givenByVariables (source : VariableSource)
    (h : ∀ v, s.connection? (.held source) = some v → ∃ es, v = .mapping es) :
    ∃ given, givenByVariables source (s.held source) = .ok given ∧
      Tells s (.held source) given ∧ IsProper given := by
  obtain ⟨c, hc, hmapping, es, hentries, hnamed, hmembers⟩ := serviceValue?_eq source h
  have hheld := areHeld_serviceMembers (s.held source)
  let value (name : String) : Option Node :=
    (valueOf? (lowerNames (s.held source)) name).map Node.string
  let given : Given := (c.map fun v => ("service", v)).toList ++
    plainNames.filterMap fun n => (value n).map fun v => (n, v)
  have hconnection : given.connection = respelled ServiceSettings.names es := by
    rw [Given.connection, lookup_table_service, if_pos rfl, hentries]
  refine ⟨given, ?gives,
    { plain := fun l hl => ?plain, mapping := fun v hv => ?mapping, spelled := fun l hl => ?spelled },
    { named := ?named, nodup := ?nodup }⟩
  case gives =>
    simp only [givenByVariables, hc, Except.map, given, value, Option.map_map]
    rfl
  case plain =>
    rw [lookup_table_service, if_neg (name_ne_service l), if_pos (Leaf.mem_plainNames hl)]
    simp only [value, valueOf?_lowerNames (isLower_name l), Sources.mention?, hl, Option.map_map]
    rfl
  case mapping =>
    rw [lookup_table_service, if_pos rfl] at hv
    exact hmapping v hv
  case spelled =>
    have halike : ∀ m ∈ spellings l.name (serviceMembers (lowerNames (s.held source))).members,
        m.1 = l.name := by
      intro m hm
      obtain ⟨hmem, hspells⟩ := mem_spellings.mp hm
      have hlower := hheld.lower _ (List.mem_map_of_mem hmem)
      exact ((isLower_name l).eq_of_sameAsciiCase hlower hspells).symm
    rw [hconnection, spellings_respelled hnamed (Leaf.mem_names hl), hmembers,
      lastOf?_over hheld.nodup halike, get?_serviceMembers (Leaf.mem_names hl), Sources.offered,
      Sources.spellings_names _ hl]
    rfl
  case named =>
    rw [hconnection]
    exact areNamed_respelled _ hnamed
  case nodup =>
    rw [hconnection]
    exact nodup_respelled _ hnamed

/-! ## Arguments and the document -/

theorem mem_allNames {l : Leaf} (hl : l.isMember = false) : l.name ∈ allNames :=
  List.mem_cons_of_mem _ (Leaf.mem_plainNames hl)

theorem service_mem_allNames : "service" ∈ allNames := List.mem_cons_self

/-- The arguments give what they say. -/
theorem tells_givenByArguments
    (h : ∀ v, s.connection? .arguments = some v → ∃ es, v = .mapping es)
    (hnodup : ((s.object .arguments).map Prod.fst).Nodup) :
    Tells s .arguments (givenByArguments s.arguments) ∧
      IsProper (givenByArguments s.arguments) := by
  have hlookup (name : String) : (givenByArguments s.arguments).lookup name =
      if name ∈ allNames then firstOf? name (s.named .arguments) else none :=
    lookup_firstSpelled _ _ _
  have hconnection : (givenByArguments s.arguments).connection =
      entriesOf (s.connection? .arguments) := by
    rw [Given.connection, hlookup, if_pos service_mem_allNames]
    rfl
  refine ⟨⟨fun l hl => ?_, fun v hv => ?_, fun l _ => ?_⟩, ⟨?_, ?_⟩⟩
  · rw [hlookup, if_pos (mem_allNames hl)]
    simp only [Sources.mention?, hl]
  · rw [hlookup, if_pos service_mem_allNames] at hv
    exact h v hv
  · rw [hconnection]
    rfl
  · have hservice : s.connection? .arguments = (firstOf? "service" s.arguments).map .ofJson :=
      firstOf?_map _ _ _
    rw [hconnection]
    cases hc : s.connection? .arguments with
    | none => exact Entries.areNamed_nil
    | some c =>
      obtain ⟨es, rfl⟩ := h c hc
      obtain ⟨v, -, hv⟩ := Option.map_eq_some_iff.mp (hservice.symm.trans hc)
      exact areNamed_of_ofJson hv
  · rw [hconnection]
    exact hnodup

theorem read_of_holdsMapping {document : String} (h : holdsMapping document = true) :
    Yaml.read document = .ok .null ∨ ∃ es, Yaml.read document = .ok (.mapping es) := by
  unfold holdsMapping at h
  cases hv : Yaml.read document with
  | error f => simp [hv] at h
  | ok v => cases v <;> simp [hv, isMapping] at h ⊢

/-- The document gives what it says if its names are texts, and otherwise it cannot be used. -/
theorem tells_givenByDocument
    (hdocument : ∀ text ∈ s.document, holdsMapping text)
    (h : ∀ v, s.connection? .document = some v → ∃ es, v = .mapping es) :
    (s.documentEntries.AreNamed ∧ ∃ given, givenByDocument s.document = .ok given ∧
        Tells s .document given ∧ given.connection = entriesOf (s.connection? .document)) ∨
      (¬ s.documentEntries.AreNamed ∧
        givenByDocument s.document = .error (.document .unnamed)) := by
  have hread : givenByDocument s.document =
      ((s.documentEntries.mapM nameOf).mapError .document).map (firstSpelled allNames) := by
    unfold Sources.documentEntries givenByDocument
    cases htext : s.document with
    | none => rfl
    | some text =>
      obtain hnull | ⟨es, hes⟩ := read_of_holdsMapping (hdocument text htext)
      · simp only [readDocument, hnull, Option.map_some]
        rfl
      · have hmembers : membersOf (.mapping es) = .ok es := by
          cases es <;> rfl
        simp only [readDocument, hes, hmembers, Option.map_some, Except.bind]
        cases es.mapM nameOf <;> rfl
  obtain ⟨hnamed, hnames⟩ | ⟨hnamed, hnames⟩ := mapM_nameOf_eq s.documentEntries
  case inr => exact .inr ⟨hnamed, by rw [hread, hnames]; rfl⟩
  refine .inl ⟨hnamed, firstSpelled allNames s.documentEntries.texts,
    by rw [hread, hnames]; rfl, ?_⟩
  have hlookup := lookup_firstSpelled allNames s.documentEntries.texts
  have hconnection : Given.connection (firstSpelled allNames s.documentEntries.texts) =
      entriesOf (s.connection? .document) := by
    rw [Given.connection, hlookup, if_pos service_mem_allNames]
    rfl
  refine ⟨⟨fun l hl => ?_, fun v hv => ?_, fun l _ => ?_⟩, hconnection⟩
  · rw [hlookup, if_pos (mem_allNames hl)]
    simp only [Sources.mention?, hl]
    rfl
  · rw [hlookup, if_pos service_mem_allNames] at hv
    exact h v hv
  · rw [hconnection]
    rfl

/-! ## One source over another -/

/-- What is given for a setting over what a lower source gives for it. -/
def overlaid? : Option Node → Option Node → Option Node
  | some v, some low => some (overlay low v)
  | some v, none => some v
  | none, low => low

theorem lookup_over (high low : Given) (name : String) :
    (high.over low).lookup name =
      if name ∈ allNames then overlaid? (high.lookup name) (low.lookup name) else none := by
  rw [← lookup_table allNames fun n => overlaid? (high.lookup n) (low.lookup n)]
  congr 1
  refine List.filterMap_congr fun n _ => ?_
  cases high.lookup n <;> cases low.lookup n <;> rfl

theorem plainValue_overlaid? (high low : Option Node) :
    (overlaid? high low).map plainValue = (high.map plainValue).or (low.map plainValue) := by
  cases high <;> cases low <;> simp [overlaid?, plainValue_overlay]

/-- The upper value of a single setting counts. -/
theorem plain_over (hl : l.isMember = false) :
    ((high.over low).lookup l.name).map plainValue =
      ((high.lookup l.name).map plainValue).or ((low.lookup l.name).map plainValue) := by
  rw [lookup_over, if_pos (mem_allNames hl), plainValue_overlaid?]

theorem service_over (high low : Given) : (high.over low).lookup "service" =
    overlaid? (high.lookup "service") (low.lookup "service") := by
  rw [lookup_over, if_pos service_mem_allNames]

theorem GivesMapping.cases (h : GivesMapping given) :
    (given.lookup "service" = none ∧ given.connection = []) ∨
      ∃ es, given.lookup "service" = some (.mapping es) ∧ given.connection = es := by
  unfold Given.connection
  cases hv : given.lookup "service" with
  | none => exact .inl ⟨rfl, rfl⟩
  | some v =>
    obtain ⟨es, rfl⟩ := h v hv
    exact .inr ⟨es, rfl, rfl⟩

/-- The members of the upper connection are put over those of the lower one. -/
theorem connection_over (hhigh : GivesMapping high) (hlow : GivesMapping low) (h : IsProper high) :
    GivesMapping (high.over low) ∧
      (high.over low).connection.members =
        high.connection.members.putOver low.connection.members ∧
      ((high.over low).connection.AreNamed ↔ low.connection.AreNamed) := by
  obtain ⟨hnamed, hnodup⟩ := h
  have hservice := service_over high low
  unfold GivesMapping
  rw [Given.connection, hservice]
  obtain ⟨hv, hhigh⟩ | ⟨es, hv, hhigh⟩ := hhigh.cases
  · rw [hv, hhigh]
    exact ⟨hlow, rfl, Iff.rfl⟩
  · rw [hhigh] at hnamed hnodup
    rw [hv, hhigh]
    obtain ⟨hw, hlow⟩ | ⟨ls, hw, hlow⟩ := hlow.cases
    · rw [hw, hlow]
      refine ⟨fun v hv => ⟨es, (Option.some.inj hv).symm⟩, (Members.putOver_empty hnodup).symm, ?_⟩
      exact iff_of_true hnamed Entries.areNamed_nil
    · rw [hw, hlow, overlaid?, overlay]
      exact ⟨fun v hv => ⟨_, (Option.some.inj hv).symm⟩, members_overlayEntries hnamed ls,
        areNamed_overlayEntries hnamed ls⟩

/-! ## All sources merged -/

/-- What the sources come to. -/
structure Merges (s : Sources) (given : Given) : Prop where
  plain : ∀ l : Leaf, l.isMember = false →
    (given.lookup l.name).map plainValue = Layer.all.findSome? (s.mention? · l)
  mapping : GivesMapping given
  named : given.connection.AreNamed ↔ (entriesOf (s.connection? .document)).AreNamed
  member : ∀ l : Leaf, l.isMember = true →
    firstOf? l.name given.connection.members = s.counting? l

/-- The value under the first spelling of a name is the value of that spelling. -/
theorem firstOf?_eq_bind {name : String} (ms : Members) :
    firstOf? name ms =
      ((spellings name ms).head?.map Prod.fst).bind fun spelling => ms.get? spelling := by
  cases hms : spellings name ms with
  | nil => simp [firstOf?, hms]
  | cons m rest =>
    have hspells : Text.sameAsciiCase name m.1 = true :=
      (mem_spellings.mp (hms ▸ List.mem_cons_self)).2
    have hget : ms.get? m.1 = some m.2 := by
      rw [← Members.get?_restrict (p := Text.sameAsciiCase name) hspells]
      change Members.get? m.1 (spellings name ms) = _
      rw [hms, Members.get?, if_pos rfl]
    simp [firstOf?, hms, hget]

theorem findSome?_all {β : Type} (f : Layer → Option β) :
    Layer.all.findSome? f =
      (f .arguments).or ((f (.held .environment)).or ((f (.held .dotenv)).or (f .document))) := by
  simp only [Layer.all, List.findSome?_cons, List.findSome?_nil]
  cases f .arguments <;> cases f (.held .environment) <;> cases f (.held .dotenv) <;>
    cases f .document <;> rfl

theorem findSome?_all_reverse {β : Type} (f : Layer → Option β) :
    Layer.all.reverse.findSome? f =
      (((f .document).or (f (.held .dotenv))).or (f (.held .environment))).or (f .arguments) := by
  simp only [Layer.all, List.reverse_cons, List.reverse_nil, List.nil_append, List.cons_append,
    List.findSome?_cons, List.findSome?_nil]
  cases f .arguments <;> cases f (.held .environment) <;> cases f (.held .dotenv) <;>
    cases f .document <;> rfl

/-- The spelling that counts where one object is put over another. -/
theorem spelling_over (name : String) (high low : Members) :
    (spellings name (high.putOver low)).head?.map Prod.fst =
      ((spellings name low).head?.map Prod.fst).or ((spellings name high).head?.map Prod.fst) := by
  have hover : spellings name (high.putOver low) =
      Members.putOver (spellings name high) (spellings name low) :=
    Members.restrict_putOver (Text.sameAsciiCase name) high low
  rw [hover, Members.head?_putOver]

/-- A source gives under each spelling of a member what it offers. -/
theorem Tells.get?_eq {layer : Layer} (h : Tells s layer given) (hl : l.isMember = true)
    {spelling : String} (hspelling : Text.sameAsciiCase l.name spelling = true) :
    given.connection.members.get? spelling = (s.offered layer).get? spelling := by
  have hrestrict (ms : Members) : Members.get? spelling (spellings l.name ms) = ms.get? spelling :=
    Members.get?_restrict (p := Text.sameAsciiCase l.name) hspelling
  rw [← hrestrict, h.spelled l hl, hrestrict]

/-- The sources merged come to what they say. -/
theorem merges_over {a e d c : Given} (ha : Tells s .arguments a) (ha' : IsProper a)
    (he : Tells s (.held .environment) e) (he' : IsProper e) (hd : Tells s (.held .dotenv) d)
    (hd' : IsProper d) (hc : Tells s .document c)
    (hconnection : c.connection = entriesOf (s.connection? .document)) :
    Merges s (a.over (e.over (d.over c))) := by
  obtain ⟨hmapping, hmembers, hnamed⟩ := connection_over hd.mapping hc.mapping hd'
  obtain ⟨hmapping', hmembers', hnamed'⟩ := connection_over he.mapping hmapping he'
  obtain ⟨hmapping'', hmembers'', hnamed''⟩ := connection_over ha.mapping hmapping' ha'
  refine ⟨fun l hl => ?_, hmapping'', ?_, fun l hl => ?_⟩
  · rw [plain_over hl, plain_over hl, plain_over hl, ha.plain l hl, he.plain l hl, hd.plain l hl,
      hc.plain l hl, findSome?_all]
  · rw [hnamed'', hnamed', hnamed, hconnection]
  · have hspelling : (spellings l.name (a.over (e.over (d.over c))).connection.members).head?.map
        Prod.fst = s.spelling? l := by
      rw [hmembers'', hmembers', hmembers, spelling_over, spelling_over, spelling_over,
        ha.spelled l hl, he.spelled l hl, hd.spelled l hl, hc.spelled l hl, Sources.spelling?,
        findSome?_all_reverse]
    rw [firstOf?_eq_bind, hspelling, Sources.counting?]
    refine Option.bind_congr fun spelling hs => ?_
    have hspells : Text.sameAsciiCase l.name spelling = true := by
      rw [← hspelling] at hs
      obtain ⟨m, hm, rfl⟩ := Option.map_eq_some_iff.mp hs
      exact (mem_spellings.mp (List.mem_of_mem_head? hm)).2
    rw [hmembers'', hmembers', hmembers, Members.get?_putOver ha'.nodup,
      Members.get?_putOver he'.nodup, Members.get?_putOver hd'.nodup, ha.get?_eq hl hspells, he.get?_eq hl hspells,
      hd.get?_eq hl hspells, hc.get?_eq hl hspells, findSome?_all]

theorem exists_merges (h : s.GivesMappings) :
    (s.documentEntries.AreNamed ∧ ∃ given, s.merged = .ok given ∧ Merges s given) ∨
      (¬ s.documentEntries.AreNamed ∧ ∃ f, s.merged = .error f) := by
  have hmapping (layer : Layer) (v : Node) (hv : s.connection? layer = some v) :
      ∃ es, v = .mapping es := isMapping_iff.mp (h.connection layer layer.mem_all v hv)
  obtain ⟨hnamed, c, hc, htells, hconnection⟩ | ⟨hnamed, hc⟩ :=
    tells_givenByDocument h.document (hmapping .document)
  case inr =>
    refine .inr ⟨hnamed, .document .unnamed, ?_⟩
    rw [Sources.merged, hc]
    rfl
  obtain ⟨e, he, htellsE, hproperE⟩ :=
    tells_givenByVariables .environment (hmapping (.held .environment))
  obtain ⟨d, hd, htellsD, hproperD⟩ := tells_givenByVariables .dotenv (hmapping (.held .dotenv))
  obtain ⟨ha, ha'⟩ := tells_givenByArguments (hmapping .arguments) h.distinct
  refine .inl ⟨hnamed, (givenByArguments s.arguments).over (e.over (d.over c)), ?_,
    merges_over ha ha' htellsE hproperE htellsD hproperD htells hconnection⟩
  simp only [Sources.held] at he hd
  simp only [Sources.merged, hc, he, hd, bind, Except.bind, pure, Except.pure, List.foldl_cons,
    List.foldl_nil]

/-! ## Reading -/

/-- The connection is read from its members, and from the environment where they do not name one. -/
theorem get?_readMembers (es : Entries) (hl : l.isMember = true) :
    Members.get? l.name ((firstSpelled ServiceSettings.names es.texts).foldl
      (fun ms (name, v) => ms.put name (plainValue v)) (fallbackMembers s.environment)) =
      (firstOf? l.name es.members).or (s.fallback? l) := by
  have hname := Leaf.mem_names hl
  have hlower : ∀ n ∈ ServiceSettings.names, Text.IsLower ("service_" ++ n) := by decide
  have hfallback : Members.get? l.name (fallbackMembers s.environment) = s.fallback? l := by
    have hvalue : fallbackMembers s.environment = ServiceSettings.names.filterMap fun n =>
        ((valueOf? (lowerNames (s.held .environment)) ("service_" ++ n)).map Value.string).map
          fun v => (n, v) := by
      simp only [fallbackMembers, Option.map_map]
      rfl
    rw [hvalue, get?_eq_lookup, lookup_table, if_pos hname, valueOf?_lowerNames (hlower _ hname),
      Sources.fallback?, if_pos hl]
  have hover : (firstSpelled ServiceSettings.names es.texts).foldl
      (fun ms (name, v) => ms.put name (plainValue v)) (fallbackMembers s.environment) =
      Members.putOver (ServiceSettings.names.filterMap fun n =>
        (firstOf? n es.members).map fun v => (n, v)) (fallbackMembers s.environment) := by
    have htable : (ServiceSettings.names.filterMap fun n =>
        (firstOf? n es.members).map fun v => (n, v)) =
        (firstSpelled ServiceSettings.names es.texts).map fun (n, v) => (n, plainValue v) := by
      rw [firstSpelled_eq_table, List.map_filterMap]
      refine List.filterMap_congr fun n _ => ?_
      rw [Entries.members, firstOf?_map, Option.map_map, Option.map_map]
      rfl
    rw [htable, Members.putOver, List.foldl_map]
  have hnodup : ServiceSettings.names.Nodup := by decide
  rw [hover, Members.get?_putOver (nodup_table hnodup), hfallback, get?_eq_lookup, lookup_table,
    if_pos hname]

theorem readService_eq_good {es : Entries} {c : ServiceSettings} :
    readService s.environment es.texts = .good c ↔
      Leaf.baseUrl.settle ((firstOf? Leaf.baseUrl.name es.members).or (s.fallback? .baseUrl)) =
          .good c.baseUrl ∧
        Leaf.timeout.settle ((firstOf? Leaf.timeout.name es.members).or (s.fallback? .timeout)) =
          .good c.timeout := by
  rw [readService, serviceRead_eq_good, get?_readMembers es rfl, get?_readMembers es rfl]

theorem ofChecked_eq_ok_iff {α : Type} {x : Checked α} {a : α} :
    Fault.ofChecked x = .ok a ↔ x = .good a := by
  cases x <;> simp [Fault.ofChecked]

theorem resolve_eq_ok_iff (hmerged : s.merged = .ok given) (hmapping : GivesMapping given) :
    s.resolve = .ok r ↔ given.connection.AreNamed ∧
      readService s.environment given.connection.texts = .good r.service ∧
      ∀ l : Leaf, l.isMember = false →
        l.settle ((given.lookup l.name).map plainValue) = .good (r.leaf l) := by
  have hplain (name : String) :
      Members.get? name (given.map fun (name, v) => (name, plainValue v)) =
        (given.lookup name).map plainValue := by
    rw [get?_eq_lookup, lookup_map]
  have hread (service : Checked ServiceSettings) : Fault.ofChecked (Settings.read service
      (given.map fun (name, v) => (name, plainValue v))) = .ok r ↔
      service = .good r.service ∧ ∀ l : Leaf, l.isMember = false →
        l.settle ((given.lookup l.name).map plainValue) = .good (r.leaf l) := by
    rw [ofChecked_eq_ok_iff, read_eq_good]
    simp only [hplain]
  obtain ⟨hservice, hconnection⟩ | ⟨es, hservice, hconnection⟩ := hmapping.cases
  · have hresolve : s.resolve = (Fault.ofChecked (readService s.environment [])).bind fun c =>
        Fault.ofChecked (Settings.read (.good c)
          (given.map fun (name, v) => (name, plainValue v))) := by
      simp only [Sources.resolve, hmerged, bind, Except.bind, hservice]
      cases readService s.environment [] <;> rfl
    rw [hresolve, hconnection, and_iff_right Entries.areNamed_nil]
    change _ ↔ readService s.environment [] = .good r.service ∧ _
    cases readService s.environment [] with
    | good c => exact hread (.good c)
    | flawed fs => exact iff_of_false (fun h => by cases h) fun h => by cases h.1
  · have hresolve : s.resolve = (namedMembers es).bind fun named =>
        Fault.ofChecked (Settings.read (.under "service" (readService s.environment named))
          (given.map fun (name, v) => (name, plainValue v))) := by
      simp only [Sources.resolve, hmerged, bind, Except.bind, hservice]
      cases namedMembers es <;> rfl
    rw [hresolve, hconnection]
    obtain ⟨hnamed, hnames⟩ | ⟨hnamed, hnames⟩ := namedMembers_eq es
    · rw [hnames]
      change Fault.ofChecked _ = .ok r ↔ _
      rw [hread, Record.under_eq_good]
      exact (and_iff_right hnamed).symm
    · rw [hnames]
      exact iff_of_false (fun h => by cases h) fun h => hnamed h.1

end Workbench.Settings
