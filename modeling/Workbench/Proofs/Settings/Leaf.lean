import Workbench.Record.Flaw
import Workbench.Settings.Source

/-!
# The settings one by one

Each setting has a name, a kind of value, a default and a reader. The settings that are read from
the members of an object are just the values of the single settings, each read from what is given
for it.
-/
namespace Workbench.Settings

open Json (Members Value)
open Number (Binary64)
open Record (Checked FieldName)

/-- The single settings. -/
inductive Leaf where
  | debounceMs
  | renderMaxDepth
  | renderIndent
  | autoTransform
  | baseUrl
  | timeout
  deriving DecidableEq, Repr

namespace Leaf

def all : List Leaf :=
  [debounceMs, renderMaxDepth, renderIndent, autoTransform, baseUrl, timeout]

theorem mem_all (l : Leaf) : l ∈ all := by
  cases l <;> decide

def name : Leaf → String
  | debounceMs => "debounce_ms"
  | renderMaxDepth => "render_max_depth"
  | renderIndent => "render_indent"
  | autoTransform => "auto_transform_default"
  | baseUrl => "base_url"
  | timeout => "timeout_s"

/-- Is it a member of the connection? -/
def isMember : Leaf → Bool
  | baseUrl | timeout => true
  | _ => false

/-- The kind of value that a setting has. -/
abbrev Kind : Leaf → Type
  | debounceMs | renderIndent => Nat
  | renderMaxDepth => Option Nat
  | autoTransform => Bool
  | baseUrl => String
  | timeout => Binary64

instance : (l : Leaf) → DecidableEq l.Kind
  | debounceMs | renderIndent => inferInstanceAs (DecidableEq Nat)
  | renderMaxDepth => inferInstanceAs (DecidableEq (Option Nat))
  | autoTransform => inferInstanceAs (DecidableEq Bool)
  | baseUrl => inferInstanceAs (DecidableEq String)
  | timeout => inferInstanceAs (DecidableEq Binary64)

def default : (l : Leaf) → l.Kind
  | debounceMs => (300 : Nat)
  | renderMaxDepth => (none : Option Nat)
  | renderIndent => (2 : Nat)
  | autoTransform => false
  | baseUrl => ServiceSettings.defaultBaseUrl
  | timeout => ServiceSettings.defaultTimeout

/-- The setting that a value is read as. A base address loses its trailing slashes. -/
def read : (l : Leaf) → Value → Checked l.Kind
  | debounceMs => readFrom 0
  | renderMaxDepth => Record.optional (readFrom 1)
  | renderIndent => readIndent
  | autoTransform => Record.readBool
  | baseUrl => fun v => (Record.readString v).map ServiceSettings.trimSlashes
  | timeout => ServiceSettings.readTimeout

/-- The setting that comes of what is given for it: its default if nothing is. -/
def settle (l : Leaf) : Option Value → Checked l.Kind
  | some v => l.read v
  | none => .good l.default

theorem mem_plainNames {l : Leaf} (h : l.isMember = false) : l.name ∈ plainNames := by
  cases l <;> first | decide | cases h

theorem mem_names {l : Leaf} (h : l.isMember = true) : l.name ∈ ServiceSettings.names := by
  cases l <;> first | decide | cases h

theorem forall_isMember {p : Leaf → Prop} :
    (∀ l : Leaf, l.isMember = true → p l) ↔ p baseUrl ∧ p timeout := by
  refine ⟨fun h => ⟨h _ rfl, h _ rfl⟩, fun ⟨hurl, htime⟩ l hl => ?_⟩
  cases l with
  | baseUrl => exact hurl
  | timeout => exact htime
  | _ => cases hl

end Leaf

/-- The value of a single setting. -/
def leaf (r : Settings) : (l : Leaf) → l.Kind
  | .debounceMs => r.debounceMs
  | .renderMaxDepth => r.renderMaxDepth
  | .renderIndent => r.renderIndent
  | .autoTransform => r.autoTransform
  | .baseUrl => r.service.baseUrl
  | .timeout => r.service.timeout

/-- The settings with these values. -/
def ofLeaves (value : (l : Leaf) → l.Kind) : Settings where
  service := { baseUrl := value .baseUrl, timeout := value .timeout }
  debounceMs := value .debounceMs
  renderMaxDepth := value .renderMaxDepth
  renderIndent := value .renderIndent
  autoTransform := value .autoTransform

@[simp] theorem leaf_ofLeaves (value : (l : Leaf) → l.Kind) (l : Leaf) :
    (ofLeaves value).leaf l = value l := by
  cases l <;> rfl

variable {ms : Members}

/-- What is read for a field is what comes of the value given for it. -/
theorem defaulted_eq_good (l : Leaf) {a : l.Kind} {ms : Members} :
    Record.defaulted { name := l.name } l.read l.default ms = .good a ↔
      l.settle (ms.get? l.name) = .good a := by
  have hget : FieldName.get? { name := l.name } ms = ms.get? l.name := by
    unfold FieldName.get?
    cases ms.get? l.name <;> rfl
  rw [Record.defaulted, hget]
  cases ms.get? l.name with
  | none => rfl
  | some v => exact Record.under_eq_good

theorem serviceRead_eq_good {c : ServiceSettings} :
    ServiceSettings.read ms = .good c ↔
      Leaf.baseUrl.settle (ms.get? Leaf.baseUrl.name) = .good c.baseUrl ∧
      Leaf.timeout.settle (ms.get? Leaf.timeout.name) = .good c.timeout := by
  unfold ServiceSettings.read
  simp only [Record.seq_eq_good, Record.map_eq_good]
  constructor
  · rintro ⟨_, _, ⟨url, hurl, rfl⟩, htime, rfl⟩
    exact ⟨(defaulted_eq_good .baseUrl).mp hurl, (defaulted_eq_good .timeout).mp htime⟩
  · rintro ⟨hurl, htime⟩
    exact ⟨_, _, ⟨_, (defaulted_eq_good .baseUrl).mpr hurl, rfl⟩,
      (defaulted_eq_good .timeout).mpr htime, rfl⟩

theorem read_eq_good {service : Checked ServiceSettings} {r : Settings} :
    Settings.read service ms = .good r ↔ service = .good r.service ∧
      ∀ l : Leaf, l.isMember = false → l.settle (ms.get? l.name) = .good (r.leaf l) := by
  unfold Settings.read
  simp only [Record.seq_eq_good, Record.map_eq_good]
  constructor
  · rintro ⟨_, armed, ⟨_, indent, ⟨_, depth, ⟨_, window, ⟨c, rfl, rfl⟩, hwindow, rfl⟩, hdepth, rfl⟩,
      hindent, rfl⟩, harmed, rfl⟩
    refine ⟨rfl, fun l hl => ?_⟩
    cases l with
    | debounceMs => exact (defaulted_eq_good .debounceMs).mp hwindow
    | renderMaxDepth => exact (defaulted_eq_good .renderMaxDepth).mp hdepth
    | renderIndent => exact (defaulted_eq_good .renderIndent).mp hindent
    | autoTransform => exact (defaulted_eq_good .autoTransform).mp harmed
    | _ => cases hl
  · rintro ⟨rfl, h⟩
    have hwindow := (defaulted_eq_good .debounceMs).mpr (h .debounceMs rfl)
    have hdepth := (defaulted_eq_good .renderMaxDepth).mpr (h .renderMaxDepth rfl)
    have hindent := (defaulted_eq_good .renderIndent).mpr (h .renderIndent rfl)
    have harmed := (defaulted_eq_good .autoTransform).mpr (h .autoTransform rfl)
    exact ⟨_, _, ⟨_, _, ⟨_, _, ⟨_, _, ⟨_, rfl, rfl⟩, hwindow, rfl⟩, hdepth, rfl⟩, hindent, rfl⟩,
      harmed, rfl⟩

/-! ## Trailing slashes -/

theorem toList_trimSlashes (url : String) : (ServiceSettings.trimSlashes url).toList =
    (url.toList.reverse.dropWhile (· == '/')).reverse := String.toList_ofList

/-- A base address is what it is given as without the slashes at the end. -/
theorem trimSlashes_eq (url : String) :
    ∃ k, url.toList = (ServiceSettings.trimSlashes url).toList ++ List.replicate k '/' := by
  have hslashes : ∀ c ∈ (url.toList.reverse.takeWhile (· == '/')).reverse, c = '/' := fun c hc =>
    eq_of_beq (List.all_eq_true.mp List.all_takeWhile c (List.mem_reverse.mp hc))
  refine ⟨(url.toList.reverse.takeWhile (· == '/')).reverse.length, ?_⟩
  rw [toList_trimSlashes, ← List.eq_replicate_of_mem hslashes, ← List.reverse_append,
    List.takeWhile_append_dropWhile, List.reverse_reverse]

theorem getLast?_trimSlashes (url : String) :
    (ServiceSettings.trimSlashes url).toList.getLast? ≠ some '/' := by
  rw [toList_trimSlashes, List.getLast?_reverse]
  intro h
  have hfirst := List.head?_dropWhile_not (· == '/') url.toList.reverse
  rw [h] at hfirst
  cases hfirst

end Workbench.Settings
