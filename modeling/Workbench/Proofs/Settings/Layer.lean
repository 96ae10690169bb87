import Workbench.Proofs.Json.Members
import Workbench.Proofs.Settings.Leaf
import Workbench.Proofs.Text.Case

/-!
# What each source says

What every source of settings says of every single setting, before anything is merged, and what
counts of it. Main definitions: `mention?`, what a source says of a setting; `first?`, what the
first of the sources that mention a setting says; `effective?`, what counts. The last two differ
only for a member of the connection that is spelled in several ways.
-/
namespace Workbench.Settings

open Json (Members Value)
open Workbench.Tree (Node)

/-! ## Spellings -/

/-- The pairs whose names are spellings of a name. -/
def spellings {α : Type} (name : String) (given : List (String × α)) : List (String × α) :=
  given.filter fun g => Text.sameAsciiCase name g.1

/-- The value under the first spelling of a name. -/
def firstOf? {α : Type} (name : String) (given : List (String × α)) : Option α :=
  (spellings name given).head?.map Prod.snd

/-- The value under the last spelling of a name. -/
def lastOf? {α : Type} (name : String) (given : List (String × α)) : Option α :=
  (spellings name given).getLast?.map Prod.snd

/-- The members of a mapping that have a text for a name. -/
def Entries.texts (es : Entries) : List (String × Node) :=
  es.filterMap fun
    | (.string name, v) => some (name, v)
    | _ => none

/-- All names of the members are texts. -/
def Entries.AreNamed (es : Entries) : Prop := ∀ e ∈ es, ∃ name, e.1 = .string name

instance (key : Node) : Decidable (∃ name, key = .string name) :=
  match key with
  | .string name => .isTrue ⟨name, rfl⟩
  | .null | .undefined | .bool _ | .int _ | .float _ | .other _ | .sequence _ _ | .mapping _ =>
    .isFalse (by simp)

instance (es : Entries) : Decidable es.AreNamed :=
  inferInstanceAs (Decidable (∀ e ∈ es, ∃ name, e.1 = .string name))

/-- The members that have a text for a name, with their values as a field reads them. -/
def Entries.members (es : Entries) : Members := es.texts.map fun m => (m.1, plainValue m.2)

/-- The members of what is given for the connection. -/
def entriesOf : Option Node → Entries
  | some (.mapping es) => es
  | _ => []

def isMapping : Node → Bool
  | .mapping _ => true
  | _ => false

theorem isMapping_iff {v : Node} : isMapping v = true ↔ ∃ es, v = .mapping es := by
  cases v <;> simp [isMapping]

/-- Is a document a mapping or empty? -/
def holdsMapping (document : String) : Bool :=
  match Yaml.read document with
  | .ok v => v matches .null || isMapping v
  | .error _ => false

/-! ## Sources -/

/-- The sources of settings. -/
inductive Layer where
  | arguments
  | held (source : VariableSource)
  | document
  deriving DecidableEq, Repr

/-- All sources, those that win first. -/
def Layer.all : List Layer :=
  [.arguments, .held .environment, .held .dotenv, .document]

theorem Layer.mem_all (layer : Layer) : layer ∈ Layer.all := by
  obtain _ | (_ | _) | _ := layer <;> decide

theorem forall_source {p : VariableSource → Prop} :
    (∀ source, p source) ↔ p .environment ∧ p .dotenv :=
  ⟨fun h => ⟨h _, h _⟩, fun ⟨henvironment, hdotenv⟩ source =>
    source.rec henvironment hdotenv⟩

/-- The value of a variable with the prefix of the settings, whatever the case of its letters. Of
two spellings the later counts. -/
def textOf? (name : String) (vars : Dotenv.Variables) : Option String :=
  (lastOf? (namePrefix ++ name) vars).bind id

/-- Is the text the name of a variable for something inside a member of the connection? -/
def isInside (member : String) (text : String) : Bool :=
  (memberPrefix ++ member ++ "__").toList.isPrefixOf (text.toList.map Char.toLower)

/-- What the variables of a member of the connection give for it. A variable without a value gives
null, and variables for something inside the member give a collection. -/
def ownVariable? (member : String) (vars : Dotenv.Variables) : Option Value :=
  match lastOf? (memberPrefix ++ member) vars with
  | some text => some (text.elim .null .string)
  | none => if vars.any fun v => isInside member v.1 then some (.array []) else none

/-- What a text of JSON stands for. Any other text stands for itself. -/
def ofText (text : String) : Node :=
  match Json.decode text with
  | .ok v => .ofJson v
  | .error _ => .other text

namespace Sources

/-- The variables that a source holds. -/
def held (s : Sources) : VariableSource → Dotenv.Variables
  | .environment => s.environment.map fun (name, text) => (name, some text)
  | .dotenv => Dotenv.read s.environment (s.dotenv.getD "")

/-- The members of the document. -/
def documentEntries (s : Sources) : Entries :=
  match s.document.map Yaml.read with
  | some (.ok (.mapping es)) => es
  | _ => []

/-- What the arguments and the document give by name. -/
def named (s : Sources) : Layer → List (String × Node)
  | .arguments => s.arguments.map fun (name, v) => (name, .ofJson v)
  | .held _ => []
  | .document => s.documentEntries.texts

/-- What a source gives for the whole connection. -/
def connection? (s : Sources) : Layer → Option Node
  | .held source => (textOf? "service" (s.held source)).map ofText
  | layer => firstOf? "service" (s.named layer)

/-- The members of what a source gives for the whole connection. -/
def object (s : Sources) (layer : Layer) : Members := (entriesOf (s.connection? layer)).members

/-- What a source says of a setting. Names count in any letter case. For a member of the connection
a variable of its own comes before the object in the variable of the connection. -/
def mention? (s : Sources) (layer : Layer) (l : Leaf) : Option Value :=
  match layer, l.isMember with
  | .held source, false => (textOf? l.name (s.held source)).map .string
  | .held source, true =>
    (ownVariable? l.name (s.held source)).or (lastOf? l.name (s.object layer))
  | _, false => (firstOf? l.name (s.named layer)).map plainValue
  | _, true => firstOf? l.name (s.object layer)

/-- What the environment says of a member of the connection that no source mentions. -/
def fallback? (s : Sources) (l : Leaf) : Option Value :=
  if l.isMember then (textOf? ("service_" ++ l.name) (s.held .environment)).map .string
  else none

/-- What the first of the sources that mention a setting says of it. -/
def first? (s : Sources) (l : Leaf) : Option Value :=
  (Layer.all.findSome? (s.mention? · l)).or (s.fallback? l)

/-! ## What counts -/

/-- The members of the connection that a source offers for merging: the arguments and the document
with the names that they use, the variables with the names of the fields. An object in a variable
may spell a name in several ways: the variable of the member takes the place of the member with just
its name, and the last of the spellings counts. -/
def offered (s : Sources) : Layer → Members
  | .held source =>
    ServiceSettings.names.filterMap fun name =>
      let given := s.object (.held source)
      (lastOf? name (match ownVariable? name (s.held source) with
        | some v => given.put name v
        | none => given)).map fun v => (name, v)
  | layer => s.object layer

/-- The spelling of a member that counts: the first one of the lowest source that has any. -/
def spelling? (s : Sources) (l : Leaf) : Option String :=
  Layer.all.reverse.findSome? fun layer => (spellings l.name (s.offered layer)).head?.map Prod.fst

/-- What counts for a member of the connection among the sources: what the first source says that
uses the spelling that counts. -/
def counting? (s : Sources) (l : Leaf) : Option Value :=
  (s.spelling? l).bind fun name => Layer.all.findSome? fun layer => (s.offered layer).get? name

/-- What counts for a setting. -/
def effective? (s : Sources) (l : Leaf) : Option Value :=
  if l.isMember then (s.counting? l).or (s.fallback? l) else s.first? l

/-! ## Sources that are in order -/

/-- Each source that says something of the whole connection gives a mapping for it. -/
@[mk_iff]
structure GivesMappings (s : Sources) : Prop where
  document : ∀ text ∈ s.document, holdsMapping text
  connection : ∀ layer ∈ Layer.all, ∀ v ∈ s.connection? layer, isMapping v
  /-- The arguments give no member twice. -/
  distinct : ((s.object .arguments).map Prod.fst).Nodup

/-- The names in the document are texts. -/
@[mk_iff]
structure IsNamed (s : Sources) : Prop where
  settings : s.documentEntries.AreNamed
  members : (entriesOf (s.connection? .document)).AreNamed

/-- The sources spell a member of the connection in one way. -/
@[mk_iff]
structure IsUniform (s : Sources) (l : Leaf) : Prop where
  /-- All sources that offer the member have the same name for it. -/
  alike : ∃ name, ∀ layer, ∀ m ∈ spellings l.name (s.offered layer), m.1 = name
  /-- An object in a variable has the member once at most. -/
  once : ∀ source, (spellings l.name (s.object (.held source))).length ≤ 1

/-- The sources give mappings for the connection, with texts for names, and spell each member in one
way. -/
@[mk_iff]
structure IsOrderly (s : Sources) : Prop extends GivesMappings s, IsNamed s where
  uniform : ∀ l : Leaf, l.isMember = true → s.IsUniform l

/-- The second sources say the same as the first ones but of one setting in one source. -/
structure AltersOnly (s s' : Sources) (layer : Layer) (l : Leaf) : Prop where
  mention : ∀ other l', ¬ (other = layer ∧ l' = l) → s'.mention? other l' = s.mention? other l'
  fallback : ∀ l', s'.fallback? l' = s.fallback? l'

instance (s : Sources) : Decidable s.GivesMappings := decidable_of_iff' _ (givesMappings_iff s)

instance (s : Sources) : Decidable s.IsNamed := decidable_of_iff' _ (isNamed_iff s)

/-- If all sources have the same name for a member then it is the one that counts. -/
theorem alike_iff {s : Sources} {l : Leaf} :
    (∃ name, ∀ layer, ∀ m ∈ spellings l.name (s.offered layer), m.1 = name) ↔
      ∀ layer ∈ Layer.all, ∀ m ∈ spellings l.name (s.offered layer), s.spelling? l = some m.1 := by
  constructor
  · rintro ⟨name, h⟩ layer - m hm
    cases hspelling : s.spelling? l with
    | none =>
      have hnone := List.findSome?_eq_none_iff.mp hspelling layer (by simp [Layer.mem_all])
      simp [List.ne_nil_of_mem hm] at hnone
    | some other =>
      obtain ⟨low, -, hlow⟩ := List.exists_of_findSome?_eq_some hspelling
      obtain ⟨m', hm', rfl⟩ := Option.map_eq_some_iff.mp hlow
      rw [h low m' (List.mem_of_mem_head? hm'), h layer m hm]
  · intro h
    refine ⟨(s.spelling? l).getD "", fun layer m hm => ?_⟩
    rw [h layer layer.mem_all m hm, Option.getD_some]

instance (s : Sources) (l : Leaf) : Decidable (s.IsUniform l) :=
  have : Decidable (∃ name, ∀ layer, ∀ m ∈ spellings l.name (s.offered layer), m.1 = name) :=
    decidable_of_iff' _ alike_iff
  have : Decidable (∀ source, (spellings l.name (s.object (.held source))).length ≤ 1) :=
    decidable_of_iff' _ forall_source
  decidable_of_iff' _ (isUniform_iff s l)

instance (s : Sources) : Decidable s.IsOrderly :=
  have : Decidable (∀ l : Leaf, l.isMember = true → s.IsUniform l) :=
    decidable_of_iff' _ Leaf.forall_isMember
  decidable_of_iff' _ (isOrderly_iff s)

end Sources

/-! ## One spelling -/

section

variable {α : Type} {name spelling : String} {given : List (String × α)}

theorem mem_spellings {g : String × α} :
    g ∈ spellings name given ↔ g ∈ given ∧ Text.sameAsciiCase name g.1 = true := List.mem_filter

theorem lastOf?_singleton {other : String} {v : α}
    (h : Text.sameAsciiCase name other = false) : lastOf? name [(other, v)] = none := by
  simp [lastOf?, spellings, h]

theorem spellings_put (name : String) (v : Value) (ms : Members) :
    spellings name (ms.put name v) = Members.put name v (spellings name ms) :=
  (Members.restrict_put (Text.sameAsciiCase name) name v ms).trans
    (if_pos (Text.sameAsciiCase_self name))

/-- Where a name is spelled in one way only, the value under that spelling is the first one. -/
theorem get?_eq_firstOf? {ms : Members} (hspelling : Text.sameAsciiCase name spelling = true)
    (h : ∀ m ∈ spellings name ms, m.1 = spelling) : ms.get? spelling = firstOf? name ms := by
  have hrestrict : Members.get? spelling (spellings name ms) = ms.get? spelling :=
    Members.get?_restrict (p := Text.sameAsciiCase name) hspelling
  rw [← hrestrict, firstOf?]
  cases hms : spellings name ms with
  | nil => rfl
  | cons m rest => simp [Members.get?, h m (hms ▸ List.mem_cons_self)]

/-- A variable of the member's own comes before an object that has the member once at most. -/
theorem lastOf?_put (ms : Members) (own : Option Value) (h : (spellings name ms).length ≤ 1) :
    lastOf? name (match own with
      | some v => ms.put name v
      | none => ms) = own.or (lastOf? name ms) := by
  cases own with
  | none => rfl
  | some v =>
    rw [lastOf?, spellings_put]
    match hms : spellings name ms, h with
    | [], _ => rfl
    | [m], _ => by_cases hm : m.1 = name <;> simp [Members.put, hm]

end

/-! ## What counts where a member is spelled in one way -/

namespace Sources

variable {s : Sources} {l : Leaf} {layer : Layer}

/-- Of the names of the fields only its own is a spelling of a member. -/
theorem spellings_names (value : String → Option Value) (hl : l.isMember = true) :
    spellings l.name (ServiceSettings.names.filterMap fun name =>
        (value name).map fun v => (name, v)) =
      ((value l.name).map fun v => (l.name, v)).toList := by
  have hother : Text.sameAsciiCase "base_url" "timeout_s" = false := by decide
  have hother' : Text.sameAsciiCase "timeout_s" "base_url" = false := by decide
  cases l with
  | baseUrl =>
    cases h : value "base_url" <;> cases h' : value "timeout_s" <;>
      simp [spellings, ServiceSettings.names, Leaf.name, h, h', hother]
  | timeout =>
    cases h : value "base_url" <;> cases h' : value "timeout_s" <;>
      simp [spellings, ServiceSettings.names, Leaf.name, h, h', hother']
  | _ => cases hl

/-- A source offers what it says of a member under the first spelling of its name. -/
theorem mention?_eq_firstOf? (h : s.IsUniform l) (hl : l.isMember = true) (layer : Layer) :
    s.mention? layer l = firstOf? l.name (s.offered layer) := by
  cases layer with
  | held source =>
    rw [offered, firstOf?, spellings_names _ hl, lastOf?_put _ _ (h.once source)]
    simp only [mention?, hl]
    cases (ownVariable? l.name (s.held source)).or (lastOf? l.name (s.object (.held source))) <;>
      rfl
  | arguments => simp [mention?, offered, hl]
  | document => simp [mention?, offered, hl]

/-- What counts for a setting that is spelled in one way is what the first source that mentions it
says. -/
theorem effective?_eq_first? (h : l.isMember = true → s.IsUniform l) :
    s.effective? l = s.first? l := by
  unfold effective?
  split
  case isFalse => rfl
  case isTrue hl =>
    obtain ⟨spelling, halike⟩ := (h hl).alike
    unfold first? counting?
    congr 1
    simp only [mention?_eq_firstOf? (h hl) hl]
    cases hname : s.spelling? l with
    | none =>
      have hnone : ∀ layer ∈ Layer.all, firstOf? l.name (s.offered layer) = none := by
        intro layer hlayer
        have hkey := List.findSome?_eq_none_iff.mp hname layer (List.mem_reverse.mpr hlayer)
        simpa [firstOf?] using hkey
      exact (List.findSome?_eq_none_iff.mpr hnone).symm
    | some name =>
      obtain ⟨layer, -, hkey⟩ := List.exists_of_findSome?_eq_some hname
      obtain ⟨m, hm, rfl⟩ := Option.map_eq_some_iff.mp hkey
      have hmem := List.mem_of_mem_head? hm
      have hm' : m.1 = spelling := halike layer m hmem
      have hspells : Text.sameAsciiCase l.name m.1 = true := (mem_spellings.mp hmem).2
      simp only [Option.bind_some,
        get?_eq_firstOf? hspells fun m' h' => (halike _ m' h').trans hm'.symm]

end Sources

end Workbench.Settings
