import ThemedPages.Proofs.Tables
import ThemedPages.Theme.Properties
import Mathlib.Algebra.GroupWithZero.Nat
import Mathlib.Data.List.Nodup

/-!
# The properties of a styling

A styling has settings: the font family, and values under names in seven sections. The settings of
all sections become rows of one table, where a row stands over any with its name. So that none is
lost, the names of the settings have to be apart, whatever the names in the sections are.

**Theorem (`property_for_each_setting`).** Each setting of a theme or of a variation is one property,
with the name that its section and its own name give and with its value. No two settings give one
name, there are no other properties, and there are as many as there are settings.

The names are apart since no section begins its names with the beginning of another section's, nor
with that of the name for the font family: then the beginning of a name says what section it is from.
-/

namespace ThemedPages

/-! ## Settings and their names -/

/-- The sections of a styling with values under names. -/
inductive StyleSection
  | color
  | fontSize
  | fontWeight
  | spacing
  | shadow
  | radius
  | borderWidth
  deriving DecidableEq, Repr

namespace StyleSection

/-- All sections. -/
def all : List StyleSection :=
  [.color, .fontSize, .fontWeight, .spacing, .shadow, .radius, .borderWidth]

theorem mem_all (g : StyleSection) : g ∈ all := by cases g <;> decide

/-- How the properties of a section begin. -/
def start : StyleSection → String
  | .color => "--color-"
  | .fontSize => "--font-size-"
  | .fontWeight => "--font-weight-"
  | .spacing => "--spacing-"
  | .shadow => "--shadow-"
  | .radius => "--radius-"
  | .borderWidth => "--border-width-"

/-- The values of a section, if a styling with these colours has it. -/
def of? (colors : Option Styles) (s : Styling) : StyleSection → Option Styles
  | .color => colors
  | .fontSize => s.typography.bind Typography.fontSize
  | .fontWeight => s.typography.bind Typography.fontWeight
  | .spacing => s.spacing
  | .shadow => s.shadows
  | .radius => s.borders.bind Borders.radius
  | .borderWidth => s.borders.bind Borders.width

theorem eq_of_start_prefix {g h : StyleSection} (hstart : g.start.toList <+: h.start.toList) :
    g = h := by
  revert hstart
  cases g <;> cases h <;> decide

end StyleSection

/-- What a styling can set. -/
inductive Setting
  | fontFamily
  | named (group : StyleSection) (name : String)
  deriving DecidableEq, Repr

namespace Setting

/-- The name of the property for a setting. -/
def property : Setting → String
  | .fontFamily => "--font-family"
  | .named g name => g.start ++ name

/-- The value of a setting, if a styling with these colours has it. -/
def value? (colors : Option Styles) (s : Styling) : Setting → Option String
  | .fontFamily => s.typography.bind Typography.fontFamily
  | .named g name => (g.of? colors s).bind (·.get? name)

theorem start_prefix_property (g : StyleSection) (name : String) :
    g.start.toList <+: (named g name).property.toList :=
  ⟨name.toList, by rw [property, String.toList_append]⟩

theorem property_named_ne_property_fontFamily (g : StyleSection) (name : String) :
    (named g name).property ≠ fontFamily.property := by
  intro h
  have hstart := h ▸ start_prefix_property g name
  revert hstart
  cases g <;> decide

/-- **The names of settings are apart.** -/
theorem property_injective : Function.Injective property := by
  intro x y h
  cases x with
  | fontFamily =>
    cases y with
    | fontFamily => rfl
    | named g name => exact absurd h.symm (property_named_ne_property_fontFamily g name)
  | named g name =>
    cases y with
    | fontFamily => exact absurd h (property_named_ne_property_fontFamily g name)
    | named g' name' =>
      have hg : g = g' := by
        have hstart := start_prefix_property g name
        rw [h] at hstart
        -- Of two beginnings of one text, one begins the other.
        rcases List.prefix_or_prefix_of_prefix hstart (start_prefix_property g' name') with hp | hp
        · exact StyleSection.eq_of_start_prefix hp
        · exact (StyleSection.eq_of_start_prefix hp).symm
      subst hg
      have hname : name = name' := by simpa [property] using h
      rw [hname]

end Setting

/-! ## The settings of a styling -/

/-- The settings of a section, with their values. -/
def StyleSection.settings (colors : Option Styles) (s : Styling) (g : StyleSection) :
    List (Setting × String) :=
  ((g.of? colors s).elim [] Table.entries).map fun r => (.named g r.1, r.2)

/-- The settings of a styling with some colours, with their values. -/
def Styling.settings (colors : Option Styles) (s : Styling) : List (Setting × String) :=
  ((s.typography.bind Typography.fontFamily).toList.map fun family => (.fontFamily, family)) ++
    StyleSection.all.flatMap (StyleSection.settings colors s)

variable {colors : Option Styles} {s : Styling}

theorem StyleSection.mem_settings_iff {g : StyleSection} {x : Setting} {value : String} :
    (x, value) ∈ g.settings colors s ↔
      ∃ name, x = .named g name ∧ x.value? colors s = some value := by
  unfold settings
  cases hg : g.of? colors s with
  | none =>
    refine iff_of_false (by simp) ?_
    rintro ⟨name, rfl, hvalue⟩
    simp [Setting.value?, hg] at hvalue
  | some t =>
    rw [Option.elim_some, List.mem_map]
    constructor
    · rintro ⟨⟨name, v⟩, hrow, heq⟩
      cases heq
      refine ⟨name, rfl, ?_⟩
      rw [Setting.value?, hg, Option.bind_some]
      exact (t.mem_entries_iff name v).1 hrow
    · rintro ⟨name, rfl, hvalue⟩
      rw [Setting.value?, hg, Option.bind_some] at hvalue
      exact ⟨(name, value), (t.mem_entries_iff name value).2 hvalue, rfl⟩

/-- **The settings are those with a value.** -/
theorem Styling.mem_settings_iff {x : Setting} {value : String} :
    (x, value) ∈ s.settings colors ↔ x.value? colors s = some value := by
  rw [settings, List.mem_append, List.mem_flatMap]
  simp only [StyleSection.mem_settings_iff, StyleSection.mem_all, true_and]
  cases x with
  | fontFamily => simp [Setting.value?]
  | named g name => simp

theorem StyleSection.nodup_settings (g : StyleSection) :
    ((g.settings colors s).map Prod.fst).Nodup := by
  unfold settings
  cases g.of? colors s with
  | none => exact List.nodup_nil
  | some t =>
    have hinjective : Function.Injective (Setting.named g) := fun _ _ h => (Setting.named.inj h).2
    simpa [Table.keys, Function.comp_def] using t.nodup_keys.map hinjective

/-- No setting is there twice. -/
theorem Styling.nodup_settings : ((s.settings colors).map Prod.fst).Nodup := by
  have hnamed : ∀ g : StyleSection, ∀ x ∈ (g.settings colors s).map Prod.fst,
      ∃ name, x = .named g name := by
    intro g x hx
    obtain ⟨⟨y, value⟩, hmem, rfl⟩ := List.mem_map.1 hx
    obtain ⟨name, rfl, -⟩ := StyleSection.mem_settings_iff.1 hmem
    exact ⟨name, rfl⟩
  rw [settings, List.map_append, List.map_flatMap, List.nodup_append, List.nodup_flatMap]
  refine ⟨?_, ⟨fun g _ => g.nodup_settings, ?_⟩, ?_⟩
  · cases s.typography.bind Typography.fontFamily <;> simp
  · have hall : StyleSection.all.Nodup := by decide
    refine hall.imp fun {g g'} hne x hx hx' => hne ?_
    obtain ⟨name, rfl⟩ := hnamed g x hx
    obtain ⟨name', heq⟩ := hnamed g' _ hx'
    exact (Setting.named.inj heq).1
  · intro x hx y hy
    obtain ⟨g, -, hy⟩ := List.mem_flatMap.1 hy
    obtain ⟨name, rfl⟩ := hnamed g y hy
    obtain ⟨⟨_, value⟩, hfamily, rfl⟩ := List.mem_map.1 hx
    obtain ⟨_, -, heq⟩ := List.mem_map.1 hfamily
    cases heq
    exact nofun

/-! ## Rows of properties -/

/-- A setting as a row of the table of properties. -/
def Setting.row (r : Setting × String) : String × String := (r.1.property, r.2)

theorem map_row_settings (colors : Option Styles) (s : Styling) :
    (s.settings colors).map Setting.row =
      ((s.typography.bind Typography.fontFamily).toList.map fun family =>
        ("--font-family", family)) ++
      StyleSection.all.flatMap fun g => sectionProperties g.start (g.of? colors s) := by
  have hsection : ∀ g, (StyleSection.settings colors s g).map Setting.row =
      sectionProperties g.start (g.of? colors s) := by
    intro g
    unfold StyleSection.settings sectionProperties
    cases g.of? colors s with
    | none => rfl
    | some t =>
      rw [Option.elim_some, List.map_map]
      rfl
  rw [Styling.settings, List.map_append, List.map_map, List.map_flatMap, funext hsection]
  rfl

/-- The rows that the properties are made from. -/
def Styling.rows (colors : Option Styles) (s : Styling) : List (String × String) :=
  sectionProperties "--color-" colors ++ (s.typography.map Typography.properties).getD [] ++
    sectionProperties "--spacing-" s.spacing ++ sectionProperties "--shadow-" s.shadows ++
    (s.borders.map Borders.properties).getD []

/-- **The rows are the settings**, in another order. -/
theorem Styling.rows_perm (colors : Option Styles) (s : Styling) :
    (s.rows colors).Perm ((s.settings colors).map Setting.row) := by
  have htypography : (s.typography.map Typography.properties).getD [] =
      ((s.typography.bind Typography.fontFamily).toList.map fun family =>
        ("--font-family", family)) ++
      (sectionProperties "--font-size-" (StyleSection.fontSize.of? colors s) ++
        sectionProperties "--font-weight-" (StyleSection.fontWeight.of? colors s)) := by
    unfold StyleSection.of?
    cases s.typography with
    | none => rfl
    | some t => exact List.append_assoc _ _ _
  have hborders : (s.borders.map Borders.properties).getD [] =
      sectionProperties "--radius-" (StyleSection.radius.of? colors s) ++
        sectionProperties "--border-width-" (StyleSection.borderWidth.of? colors s) := by
    unfold StyleSection.of?
    cases s.borders <;> rfl
  rw [rows, map_row_settings, htypography, hborders, StyleSection.all]
  simp only [List.append_assoc, List.flatMap_cons, List.flatMap_nil, List.append_nil]
  -- The colours come before the font family in the rows, and after it in the settings.
  exact List.perm_append_comm_assoc _ _ _

theorem Styling.nodup_names :
    (((s.settings colors).map Setting.row).map Prod.fst).Nodup := by
  have hnames : ((s.settings colors).map Setting.row).map Prod.fst =
      ((s.settings colors).map Prod.fst).map Setting.property := by
    rw [List.map_map, List.map_map]
    rfl
  rw [hnames]
  exact nodup_settings.map Setting.property_injective

/-- **No row is lost in the table.** -/
theorem Styling.entries_properties_perm (colors : Option Styles) (s : Styling) :
    (s.properties colors).entries.Perm ((s.settings colors).map Setting.row) := by
  have hperm := s.rows_perm colors
  have hnodup : ((s.rows colors).map Prod.fst).Nodup :=
    (hperm.map Prod.fst).nodup_iff.2 nodup_names
  exact (Table.entries_ofList_perm hnodup).trans hperm

/-- The number of settings. -/
def Styling.settingCount (colors : Option Styles) (s : Styling) : Nat :=
  (s.typography.bind Typography.fontFamily).toList.length +
    (StyleSection.all.map fun g => (g.of? colors s).elim 0 Table.size).sum

theorem Styling.length_settings (colors : Option Styles) (s : Styling) :
    (s.settings colors).length = s.settingCount colors := by
  have hsection : ∀ g : StyleSection, (g.settings colors s).length =
      (g.of? colors s).elim 0 Table.size := by
    intro g
    unfold StyleSection.settings
    cases g.of? colors s with
    | none => rfl
    | some t => exact List.length_map _
  rw [settings, settingCount, List.length_append, List.length_map, List.length_flatMap,
    funext hsection]

/-! ## Properties -/

/-- Some properties are those of a styling with some colours: the values of its settings under their
names, and as many as there are settings. -/
structure PropertiesOf (colors : Option Styles) (s : Styling) (properties : Styles) : Prop where
  get?_eq_some_iff : ∀ name value, properties.get? name = some value ↔
    ∃ x : Setting, x.property = name ∧ x.value? colors s = some value
  size_eq : properties.size = s.settingCount colors

theorem Styling.propertiesOf (colors : Option Styles) (s : Styling) :
    PropertiesOf colors s (s.properties colors) where
  get?_eq_some_iff name value := by
    rw [← Table.mem_entries_iff, (s.entries_properties_perm colors).mem_iff, List.mem_map]
    constructor
    · rintro ⟨⟨x, v⟩, hmem, heq⟩
      cases heq
      exact ⟨x, rfl, mem_settings_iff.1 hmem⟩
    · rintro ⟨x, rfl, hvalue⟩
      exact ⟨(x, value), mem_settings_iff.2 hvalue, rfl⟩
  size_eq := by
    rw [Table.size, (s.entries_properties_perm colors).length_eq, List.length_map,
      length_settings]

/-- **One property for each setting.** -/
theorem property_for_each_setting :
    Function.Injective Setting.property ∧
      (∀ t : Theme, PropertiesOf (some t.colors) t.styling t.resolved.properties) ∧
      ∀ (v : Variation) (category : ThemeCategory),
        PropertiesOf v.colors v.styling (v.resolved category).properties := by
  refine ⟨Setting.property_injective, fun t => ?_, fun v category => ?_⟩
  · exact t.styling.propertiesOf (some t.colors)
  · exact v.styling.propertiesOf v.colors

end ThemedPages
