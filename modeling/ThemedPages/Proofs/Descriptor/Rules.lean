import ThemedPages.Descriptor.Validation
import Mathlib.Data.Char
import Mathlib.Data.Prod.Lex
import Mathlib.Tactic.SplitIfs
import Mathlib.Tactic.MkIffOfInductiveProp

/-!
# The rules of a descriptor

A `Breach` is a rule that a descriptor may break, with the place where it is broken.
`Descriptor.Breaks` says when a descriptor breaks a rule, and in which words that is reported. It
speaks of one rule at a time, and of a component or a data source among those before it, without
the order in which validation looks at them.

**Theorem (`validate_lists_breaches`).** Validation reports the breaches of a descriptor and nothing
else, each once, in the order of the document. So it finds a descriptor valid just if it breaks no
rule.

Each part of validation lists breaches of a kind (`ListsBreaches`), and lists of breaches can be put
one behind the other if all of the first come before all of the second. For the items of a section
that is an induction on the items, in which those before an item grow.
-/

namespace ThemedPages

/-! ## Breaches -/

/-- What may be wrong with a component. -/
inductive ComponentBreach
  | blankId
  | takenId
  | blankType
  | zeroCol
  | zeroRow
  | zeroSpan
  | zeroRowSpan
  | outsideGrid
  deriving DecidableEq, Repr

/-- What may be wrong with a data source. -/
inductive SourceBreach
  | blankName
  | takenName
  | unknownMethod
  | zeroRefresh
  deriving DecidableEq, Repr

/-- A rule that a descriptor may break; those for components and data sources come with the place
in the list of these. -/
inductive Breach
  | noPage
  | blankTitle
  | unrootedRoute
  | noLayout
  | unknownKind
  | noColumns
  | noComponents
  | component (index : Nat) (breach : ComponentBreach)
  | dataSource (index : Nat) (breach : SourceBreach)
  deriving DecidableEq, Repr

/-- The place of the offending value within a component. -/
def ComponentBreach.path : ComponentBreach → List PathStep
  | .blankId | .takenId => [.field "id"]
  | .blankType => [.field "type"]
  | .zeroCol => [.field "position", .field "col"]
  | .zeroRow => [.field "position", .field "row"]
  | .zeroSpan => [.field "position", .field "span"]
  | .zeroRowSpan => [.field "position", .field "rowSpan"]
  | .outsideGrid => [.field "position"]

/-- The place of the offending value within a data source. -/
def SourceBreach.path : SourceBreach → List PathStep
  | .blankName | .takenName => [.field "name"]
  | .unknownMethod => [.field "method"]
  | .zeroRefresh => [.field "refresh"]

/-- The place of the offending value. -/
def Breach.path : Breach → List PathStep
  | .noPage => [.field "page"]
  | .blankTitle => [.field "page", .field "title"]
  | .unrootedRoute => [.field "page", .field "route"]
  | .noLayout => [.field "layout"]
  | .unknownKind => [.field "layout", .field "type"]
  | .noColumns => [.field "layout", .field "columns"]
  | .noComponents => [.field "components"]
  | .component i b => [.field "components", .index i] ++ b.path
  | .dataSource i b => [.field "dataSources", .index i] ++ b.path

/-- The order of the rules for a component. -/
def ComponentBreach.rank : ComponentBreach → Nat
  | .blankId => 0
  | .takenId => 1
  | .blankType => 2
  | .zeroCol => 3
  | .zeroRow => 4
  | .zeroSpan => 5
  | .zeroRowSpan => 6
  | .outsideGrid => 7

/-- The order of the rules for a data source. -/
def SourceBreach.rank : SourceBreach → Nat
  | .blankName => 0
  | .takenName => 1
  | .unknownMethod => 2
  | .zeroRefresh => 3

/-- The order of the document: by section, by item, and then by rule. -/
def Breach.rank : Breach → ℕ ×ₗ ℕ ×ₗ ℕ
  | .noPage => toLex (0, toLex (0, 0))
  | .blankTitle => toLex (0, toLex (0, 1))
  | .unrootedRoute => toLex (0, toLex (0, 2))
  | .noLayout => toLex (1, toLex (0, 0))
  | .unknownKind => toLex (1, toLex (0, 1))
  | .noColumns => toLex (1, toLex (0, 2))
  | .noComponents => toLex (2, toLex (0, 0))
  | .component i b => toLex (2, toLex (i, b.rank))
  | .dataSource i b => toLex (3, toLex (i, b.rank))

/-! ## When a rule is broken -/

/-- Two texts that differ in the case of ASCII letters at most. -/
def SameUpToCase (s t : String) : Prop := s.map Char.toLower = t.map Char.toLower

/-- A component that follows others breaks a rule, which is reported with a message. -/
@[mk_iff]
inductive Component.Breaks (layout : Option PageLayout) (earlier : List Component) (c : Component) :
    ComponentBreach → String → Prop
  | blankId (blank : Text.blank c.id = true) :
      Breaks layout earlier c .blankId "component id must be non-empty"
  | takenId (given : Text.blank c.id = false) {e : Component} (before : e ∈ earlier)
      (same : e.id = c.id) :
      Breaks layout earlier c .takenId ("duplicate component id \"" ++ c.id ++ "\"")
  | blankType (blank : Text.blank c.typeName = true) :
      Breaks layout earlier c .blankType "component type must be non-empty"
  | zeroCol (zero : c.position.col = 0) : Breaks layout earlier c .zeroCol "col must be >= 1"
  | zeroRow (zero : c.position.row = 0) : Breaks layout earlier c .zeroRow "row must be >= 1"
  | zeroSpan (zero : c.position.span = 0) : Breaks layout earlier c .zeroSpan "span must be >= 1"
  | zeroRowSpan (zero : c.position.rowSpan = some 0) :
      Breaks layout earlier c .zeroRowSpan "rowSpan must be >= 1"
  /-- The last column that the component covers is a natural number of any size. -/
  | outsideGrid {l : PageLayout} {last : Nat} (given : layout = some l)
      (columns : 1 ≤ l.columns.toNat) (col : 1 ≤ c.position.col.toNat)
      (span : 1 ≤ c.position.span.toNat)
      (covered : last + 1 = c.position.col.toNat + c.position.span.toNat)
      (beyond : l.columns.toNat < last) :
      Breaks layout earlier c .outsideGrid
        ("component \"" ++ c.id ++ "\" spans columns " ++ toString c.position.col.toNat ++
          "..=" ++ toString last ++ " outside the " ++ toString l.columns.toNat ++ "-column grid")

/-- A data source that follows others breaks a rule, which is reported with a message. -/
@[mk_iff]
inductive DataSource.Breaks (earlier : List DataSource) (s : DataSource) :
    SourceBreach → String → Prop
  | blankName (blank : Text.blank s.name = true) :
      Breaks earlier s .blankName "data source name must be non-empty"
  | takenName (given : Text.blank s.name = false) {e : DataSource} (before : e ∈ earlier)
      (same : e.name = s.name) :
      Breaks earlier s .takenName ("duplicate data source \"" ++ s.name ++ "\"")
  | unknownMethod {method : String} (given : s.method = some method)
      (unknown : ∀ known ∈ ["GET", "POST", "PUT", "PATCH", "DELETE"], ¬SameUpToCase method known) :
      Breaks earlier s .unknownMethod ("unsupported method \"" ++ method ++ "\"")
  | zeroRefresh (zero : s.refresh = some 0) :
      Breaks earlier s .zeroRefresh "refresh interval must be > 0"

/-- A descriptor breaks a rule, which is reported with a message. -/
@[mk_iff]
inductive Descriptor.Breaks (d : Descriptor) : Breach → String → Prop
  | noPage (absent : d.page = none) : Breaks d .noPage "missing required section"
  | blankTitle {p : PageInfo} (given : d.page = some p) (blank : Text.blank p.title = true) :
      Breaks d .blankTitle "title must be non-empty"
  | unrootedRoute {p : PageInfo} (given : d.page = some p)
      (unrooted : ∀ rest, p.route.toList ≠ '/' :: rest) :
      Breaks d .unrootedRoute ("route \"" ++ p.route ++ "\" must start with '/'")
  | noLayout (absent : d.layout = none) : Breaks d .noLayout "missing required section"
  | unknownKind {l : PageLayout} (given : d.layout = some l)
      (unknown : ∀ kind : LayoutKind, kind.name ≠ l.kind) :
      Breaks d .unknownKind
        ("unknown layout type \"" ++ l.kind ++ "\" (expected one of grid, flex, stack)")
  | noColumns {l : PageLayout} (given : d.layout = some l) (zero : l.columns = 0) :
      Breaks d .noColumns "columns must be > 0"
  | noComponents (absent : d.components = none) :
      Breaks d .noComponents "missing required section"
  | component {before after : List Component} {c : Component} {breach : ComponentBreach}
      {message : String} (given : d.components = some (before ++ c :: after))
      (broken : c.Breaks d.layout before breach message) :
      Breaks d (.component before.length breach) message
  | dataSource {before after : List DataSource} {s : DataSource} {breach : SourceBreach}
      {message : String} (given : d.dataSources = before ++ s :: after)
      (broken : s.Breaks before breach message) :
      Breaks d (.dataSource before.length breach) message

/-! ## ListsBreaches of breaches -/

/-- A list has an issue for every breach of a kind and for nothing else, by ascending rank. -/
def ListsBreaches {β ρ : Type} [LT ρ] (path : β → List PathStep) (rank : β → ρ)
    (Broken : β → String → Prop) (issues : List Issue) : Prop :=
  ∃ breaches : List (β × String),
    issues = breaches.map (fun b => ⟨path b.1, b.2⟩) ∧
    breaches.Pairwise (fun a b => rank a.1 < rank b.1) ∧
    ∀ b message, (b, message) ∈ breaches ↔ Broken b message

namespace ListsBreaches

variable {β γ ρ σ : Type} [LT ρ] [LT σ] {path : β → List PathStep} {rank : β → ρ}
  {Broken P Q : β → String → Prop} {xs ys : List Issue}

theorem congr (h : ListsBreaches path rank P xs) (hiff : ∀ b m, P b m ↔ Q b m) :
    ListsBreaches path rank Q xs := by
  obtain ⟨breaches, hlist, hordered, hmem⟩ := h
  exact ⟨breaches, hlist, hordered, fun b m => (hmem b m).trans (hiff b m)⟩

theorem nil (h : ∀ b m, ¬P b m) : ListsBreaches path rank P [] :=
  ⟨[], rfl, .nil, fun b m => iff_of_false List.not_mem_nil (h b m)⟩

theorem eq_nil_iff (h : ListsBreaches path rank P xs) : xs = [] ↔ ∀ b m, ¬P b m := by
  obtain ⟨breaches, rfl, -, hmem⟩ := h
  rw [List.map_eq_nil_iff, List.eq_nil_iff_forall_not_mem]
  constructor
  · intro hnone b m hb
    exact hnone (b, m) ((hmem b m).2 hb)
  · intro hnone b hb
    exact hnone b.1 b.2 ((hmem b.1 b.2).1 hb)

theorem singleton (b : β) (message : String) :
    ListsBreaches path rank (fun c m => c = b ∧ m = message) [⟨path b, message⟩] :=
  ⟨[(b, message)], rfl, List.pairwise_singleton _ _, by simp⟩

theorem append (hx : ListsBreaches path rank P xs) (hy : ListsBreaches path rank Q ys)
    (before : ∀ b m c n, P b m → Q c n → rank b < rank c) :
    ListsBreaches path rank (fun b m => P b m ∨ Q b m) (xs ++ ys) := by
  obtain ⟨bs, rfl, hbs, hP⟩ := hx
  obtain ⟨cs, rfl, hcs, hQ⟩ := hy
  refine ⟨bs ++ cs, List.map_append.symm, ?_, ?_⟩
  · refine List.pairwise_append.2 ⟨hbs, hcs, ?_⟩
    intro b hb c hc
    exact before _ _ _ _ ((hP b.1 b.2).1 hb) ((hQ c.1 c.2).1 hc)
  · intro b m
    rw [List.mem_append, hP, hQ]

/-- The breaches of a part are breaches of the whole. -/
theorem map (h : ListsBreaches path rank P xs) (f : β → γ) {path' : γ → List PathStep}
    {rank' : γ → σ} (hpath : ∀ b, path' (f b) = path b)
    (hrank : ∀ b c, rank b < rank c → rank' (f b) < rank' (f c)) :
    ListsBreaches path' rank' (fun c m => ∃ b, c = f b ∧ P b m) xs := by
  obtain ⟨bs, rfl, hbs, hP⟩ := h
  refine ⟨bs.map fun b => (f b.1, b.2), ?_, ?_, ?_⟩
  · simp only [List.map_map, Function.comp_def, hpath]
  · exact List.pairwise_map.2 (hbs.imp fun {b c} hlt => hrank b.1 c.1 hlt)
  · intro c m
    simp only [List.mem_map, Prod.mk.injEq, Prod.exists]
    constructor
    · rintro ⟨b, n, hb, rfl, rfl⟩
      exact ⟨b, rfl, (hP b n).1 hb⟩
    · rintro ⟨b, rfl, hb⟩
      exact ⟨b, m, (hP b m).2 hb, rfl, rfl⟩

/-! ### Rules one by one -/

/-- What the rule of a breach gives, if it gives anything. -/
theorem rule (Broken : β → String → Prop) (b : β) {broken : Bool} {message : String}
    {place : List PathStep} (hpath : path b = place)
    (h : ∀ m, Broken b m ↔ broken = true ∧ m = message) :
    ListsBreaches path rank (fun c m => c ∈ [b] ∧ Broken c m) (issueIf broken place message) := by
  subst hpath
  simp only [List.mem_singleton]
  cases broken with
  | false =>
    refine nil ?_
    rintro c m ⟨rfl, hc⟩
    exact Bool.false_ne_true ((h m).1 hc).1
  | true =>
    refine (singleton b message).congr fun c m => and_congr_right ?_
    rintro rfl
    rw [h, and_iff_right rfl]

/-- A rule that is never broken gives nothing. -/
theorem noRule (Broken : β → String → Prop) (b : β) (h : ∀ m, ¬Broken b m) :
    ListsBreaches path rank (fun c m => c ∈ [b] ∧ Broken c m) [] := by
  refine nil ?_
  rintro c m ⟨hc, hbroken⟩
  rw [List.mem_singleton] at hc
  exact h m (hc ▸ hbroken)

theorem append_rule {bs : List β}
    (hx : ListsBreaches path rank (fun b m => b ∈ bs ∧ Broken b m) xs) (c : β)
    (hy : ListsBreaches path rank (fun b m => b ∈ [c] ∧ Broken b m) ys)
    (before : ∀ b ∈ bs, rank b < rank c := by decide) :
    ListsBreaches path rank (fun b m => b ∈ bs ++ [c] ∧ Broken b m) (xs ++ ys) := by
  refine (hx.append hy ?_).congr fun b m => ?_
  · rintro b m c' n ⟨hb, -⟩ ⟨hc, -⟩
    rw [List.mem_singleton] at hc
    exact hc ▸ before b hb
  · rw [← or_and_right, List.mem_append]

/-! ### Items one by one -/

variable {α : Type} {issues : List α → Nat → α → List Issue}

/-- **The items of a section** are looked at with those before them. -/
theorem issuesInTurn (BrokenAt : List α → α → β → String → Prop)
    (item : ∀ earlier x,
      ListsBreaches path rank (BrokenAt earlier x) (issues earlier earlier.length x))
    (before : ∀ e x b m e' y c n, e.length < e'.length → BrokenAt e x b m → BrokenAt e' y c n →
      rank b < rank c) (earlier rest : List α) :
    ListsBreaches path rank
      (fun b m => ∃ head x tail, rest = head ++ x :: tail ∧ BrokenAt (earlier ++ head) x b m)
      (issuesInTurn issues earlier rest) := by
  induction rest generalizing earlier with
  | nil =>
    refine nil ?_
    rintro b m ⟨head, x, tail, hrest, -⟩
    simp at hrest
  | cons x rest ih =>
    refine ((item earlier x).append (ih (earlier ++ [x])) ?_).congr fun b m => ?_
    · rintro b m c n hb ⟨head, y, tail, rfl, hc⟩
      refine before _ _ _ _ _ _ _ _ ?_ hb hc
      simp
    · constructor
      · rintro (hb | ⟨head, y, tail, rfl, hb⟩)
        · exact ⟨[], x, rest, rfl, by simpa using hb⟩
        · exact ⟨x :: head, y, tail, rfl, by simpa using hb⟩
      · rintro ⟨head, y, tail, hrest, hb⟩
        cases head with
        | nil =>
          obtain ⟨rfl, rfl⟩ := List.cons.inj hrest
          exact .inl (by simpa using hb)
        | cons z head =>
          obtain ⟨rfl, rfl⟩ := List.cons.inj hrest
          exact .inr ⟨head, y, tail, rfl, by simpa using hb⟩

end ListsBreaches

/-! ## Components -/

theorem issues_ite (blank broken : Bool) (place : List PathStep) (m n : String) :
    (if blank = true then [⟨place, m⟩] else issueIf broken place n) =
      issueIf blank place m ++ issueIf (!blank && broken) place n := by
  cases blank <;> simp [issueIf]

namespace Component

open ListsBreaches ComponentBreach

variable (layout : Option PageLayout) (earlier : List Component) (c : Component) (i : Nat)

theorem breaks_takenId_iff (m : String) : c.Breaks layout earlier .takenId m ↔
    (!Text.blank c.id && earlier.any fun e => e.id == c.id) = true ∧
      m = "duplicate component id \"" ++ c.id ++ "\"" := by
  simp [breaks_iff, ← exists_and_right, and_assoc]

/-- Where a position covers columns, the last of them is the one that is looked at. -/
theorem covered_iff {p : Position} (col : 1 ≤ p.col.toNat) (last : Nat) :
    last + 1 = p.col.toNat + p.span.toNat ↔ last = p.lastColumn := by
  unfold Position.lastColumn
  omega

theorem exceeds_iff {p : Position} {columns : UInt32} : p.exceeds columns = true ↔
    1 ≤ p.col.toNat ∧ 1 ≤ p.span.toNat ∧ columns.toNat < p.lastColumn := by
  simp [Position.exceeds, Nat.one_le_iff_ne_zero, and_assoc, ← UInt32.toNat_inj]

/-- Where the layout gives no columns, or none to use, nothing is outside of them. -/
theorem not_breaks_outsideGrid
    (hcolumns : (layout.map PageLayout.columns).filter (· != 0) = none) (m : String) :
    ¬c.Breaks layout earlier outsideGrid m := by
  intro h
  cases h with
  | outsideGrid given columns =>
    subst given
    simp [Option.filter, ← UInt32.toNat_inj] at hcolumns
    omega

theorem breaks_outsideGrid_iff {columns : UInt32}
    (hcolumns : (layout.map PageLayout.columns).filter (· != 0) = some columns) (m : String) :
    c.Breaks layout earlier outsideGrid m ↔ c.position.exceeds columns = true ∧
      m = "component \"" ++ c.id ++ "\" spans columns " ++ toString c.position.col.toNat ++ "..=" ++
        toString c.position.lastColumn ++ " outside the " ++ toString columns.toNat ++
        "-column grid" := by
  obtain ⟨hgiven, hpositive⟩ := Option.filter_eq_some_iff.1 hcolumns
  obtain ⟨l, rfl, rfl⟩ := Option.map_eq_some_iff.1 hgiven
  have hone : 1 ≤ l.columns.toNat := by
    simpa [Nat.one_le_iff_ne_zero, ← UInt32.toNat_inj] using hpositive
  rw [exceeds_iff]
  constructor
  · intro h
    cases h with
    | outsideGrid given _ col span covered beyond =>
      cases given
      rw [covered_iff col] at covered
      subst covered
      exact ⟨⟨col, span, beyond⟩, rfl⟩
  · rintro ⟨⟨col, span, beyond⟩, rfl⟩
    exact .outsideGrid rfl hone col span ((covered_iff col _).2 rfl) beyond

/-- **The breaches of a component**, by the rules one after the other. -/
theorem lists_issues : ListsBreaches (fun b => (Breach.component i b).path) ComponentBreach.rank
    (c.Breaks layout earlier)
    (c.issues ((layout.map PageLayout.columns).filter (· != 0)) earlier i) := by
  unfold issues Position.issues
  dsimp only
  rw [issues_ite]
  simp only [← List.append_assoc]
  refine ((((((((rule (c.Breaks layout earlier) blankId rfl ?_).append_rule takenId
    (rule _ takenId rfl (breaks_takenId_iff layout earlier c))).append_rule blankType
    (rule _ blankType rfl ?_)).append_rule zeroCol
    (rule _ zeroCol rfl ?_)).append_rule zeroRow
    (rule _ zeroRow rfl ?_)).append_rule zeroSpan
    (rule _ zeroSpan rfl ?_)).append_rule zeroRowSpan
    (rule _ zeroRowSpan rfl ?_)).append_rule outsideGrid ?_).congr ?_
  iterate 6 simp [breaks_iff]
  · cases hcolumns : (layout.map PageLayout.columns).filter (· != 0) with
    | none => exact noRule _ outsideGrid (not_breaks_outsideGrid layout earlier c hcolumns)
    | some columns =>
      exact rule _ outsideGrid rfl (breaks_outsideGrid_iff layout earlier c hcolumns)
  · intro b m
    cases b <;> simp

end Component

/-! ## Data sources -/

theorem toNat_toUpper (c : Char) :
    c.toUpper.toNat = if 97 ≤ c.toNat ∧ c.toNat ≤ 122 then c.toNat - 32 else c.toNat := by
  have hsmall : ('a'.val ≤ c.val ∧ c.val ≤ 'z'.val) ↔ 97 ≤ c.toNat ∧ c.toNat ≤ 122 := by
    simp only [UInt32.le_iff_toNat_le]
    rfl
  unfold Char.toUpper
  split_ifs with h hcode hcode
  · unfold Char.toNat at hcode ⊢
    rw [UInt32.toNat_add]
    show (c.val.toNat + 4294967264) % 4294967296 = c.val.toNat - 32
    omega
  · exact absurd (hsmall.1 h) hcode
  · exact absurd (hsmall.2 hcode) h
  · rfl

theorem toNat_toLower (c : Char) :
    c.toLower.toNat = if 65 ≤ c.toNat ∧ c.toNat ≤ 90 then c.toNat + 32 else c.toNat := by
  have hcapital : (c.val ≥ 'A'.val ∧ c.val ≤ 'Z'.val) ↔ 65 ≤ c.toNat ∧ c.toNat ≤ 90 := by
    simp only [ge_iff_le, UInt32.le_iff_toNat_le]
    rfl
  unfold Char.toLower
  split_ifs with h hcode hcode
  · unfold Char.toNat at hcode ⊢
    rw [UInt32.toNat_add]
    show (c.val.toNat + 32) % 4294967296 = c.val.toNat + 32
    omega
  · exact absurd (hcapital.1 h) hcode
  · exact absurd (hcapital.2 hcode) h
  · rfl

theorem toUpper_eq_toUpper_iff (c d : Char) : c.toUpper = d.toUpper ↔ c.toLower = d.toLower := by
  rw [← Char.toNat_inj, ← Char.toNat_inj, toNat_toUpper, toNat_toUpper, toNat_toLower,
    toNat_toLower]
  split_ifs <;> omega

/-- Whether letters are compared as small or as capital ones makes no difference. -/
theorem sameUpToCase_iff (s t : String) :
    SameUpToCase s t ↔ s.map Char.toUpper = t.map Char.toUpper := by
  have hlist : ∀ xs ys : List Char,
      xs.map Char.toLower = ys.map Char.toLower ↔ xs.map Char.toUpper = ys.map Char.toUpper := by
    intro xs
    induction xs with
    | nil => simp
    | cons x xs ih =>
      intro ys
      cases ys with
      | nil => simp
      | cons y ys => simp [ih ys, toUpper_eq_toUpper_iff]
  rw [SameUpToCase, ← String.toList_inj, ← String.toList_inj]
  simp only [String.toList_map, hlist]

theorem contains_httpMethods (method : String) :
    httpMethods.contains (method.map Char.toUpper) = true ↔
      ∃ known ∈ ["GET", "POST", "PUT", "PATCH", "DELETE"], SameUpToCase method known := by
  have hcapital : ∀ known ∈ httpMethods, known.map Char.toUpper = known := by
    decide +kernel
  rw [List.contains_iff_mem]
  constructor
  · intro h
    exact ⟨_, h, (sameUpToCase_iff _ _).2 (hcapital _ h).symm⟩
  · rintro ⟨known, hknown, hsame⟩
    rw [(sameUpToCase_iff _ _).1 hsame, hcapital known hknown]
    exact hknown

namespace DataSource

open ListsBreaches SourceBreach

variable (earlier : List DataSource) (s : DataSource) (i : Nat)

/-- **The breaches of a data source**, by the rules one after the other. -/
theorem lists_issues : ListsBreaches (fun b => (Breach.dataSource i b).path) SourceBreach.rank
    (s.Breaks earlier) (s.issues earlier i) := by
  unfold issues
  dsimp only
  rw [issues_ite]
  refine ((((rule (s.Breaks earlier) blankName rfl ?_).append_rule takenName
    (rule _ takenName rfl ?_)).append_rule unknownMethod ?_).append_rule zeroRefresh
    (rule _ zeroRefresh rfl ?_)).congr ?_
  · simp [breaks_iff]
  · simp [breaks_iff, ← exists_and_right, and_assoc]
  · cases hmethod : s.method with
    | none => exact noRule _ unknownMethod fun m => by simp [breaks_iff, hmethod]
    | some method =>
      refine rule _ unknownMethod rfl fun m => ?_
      have hknown := contains_httpMethods method
      simp [breaks_iff, hmethod] at hknown ⊢
      grind
  · simp [breaks_iff]
  · intro b m
    cases b <;> simp

end DataSource

/-! ## Descriptors -/

namespace Breach

/-- The section of the document, counted from the first. -/
def sectionRank (b : Breach) : Nat := (ofLex b.rank).1

theorem rank_lt_of_sectionRank_lt {b c : Breach} (h : b.sectionRank < c.sectionRank) :
    b.rank < c.rank :=
  Prod.Lex.lt_iff.2 (.inl h)

theorem rank_component_lt {i j : Nat} {b c : ComponentBreach}
    (h : i < j ∨ i = j ∧ b.rank < c.rank) : (component i b).rank < (component j c).rank := by
  simpa [rank, Prod.Lex.toLex_lt_toLex] using h

theorem rank_dataSource_lt {i j : Nat} {b c : SourceBreach}
    (h : i < j ∨ i = j ∧ b.rank < c.rank) : (dataSource i b).rank < (dataSource j c).rank := by
  simpa [rank, Prod.Lex.toLex_lt_toLex] using h

end Breach

theorem LayoutKind.isNone_ofName?_iff (s : String) :
    (ofName? s).isNone = true ↔ ∀ kind : LayoutKind, kind.name ≠ s := by
  rw [Option.isNone_iff_eq_none, ofName?, List.find?_eq_none]
  constructor
  · intro h kind
    have hmem : kind ∈ all := by cases kind <;> decide
    simpa using h kind hmem
  · intro h kind _
    simpa using h kind

theorem rooted_iff (cs : List Char) :
    (!cs.head?.any (· == '/')) = true ↔ ∀ rest, cs ≠ '/' :: rest := by
  cases cs with
  | nil => simp
  | cons c cs => simp

namespace Descriptor

open ListsBreaches Breach

variable (d : Descriptor)

theorem lists_page : ListsBreaches Breach.path Breach.rank
    (fun b m => b.sectionRank = 0 ∧ d.Breaks b m)
    (sectionIssues "page" PageInfo.issues d.page) := by
  cases hpage : d.page with
  | none =>
    refine (singleton noPage "missing required section").congr fun b m => ?_
    cases b <;> simp [sectionRank, rank, breaks_iff, hpage]
  | some p =>
    refine ((rule d.Breaks blankTitle rfl ?_).append_rule unrootedRoute
      (rule _ unrootedRoute rfl ?_) ?_).congr fun b m => ?_
    · simp [breaks_iff, hpage]
    · intro m
      rw [rooted_iff]
      simp [breaks_iff, hpage]
    · simp [rank, Prod.Lex.toLex_lt_toLex]
    · cases b <;> simp [sectionRank, rank, breaks_iff, hpage]

theorem lists_layout : ListsBreaches Breach.path Breach.rank
    (fun b m => b.sectionRank = 1 ∧ d.Breaks b m)
    (sectionIssues "layout" PageLayout.issues d.layout) := by
  cases hlayout : d.layout with
  | none =>
    refine (singleton noLayout "missing required section").congr fun b m => ?_
    cases b <;> simp [sectionRank, rank, breaks_iff, hlayout]
  | some l =>
    refine ((rule d.Breaks unknownKind rfl ?_).append_rule noColumns
      (rule _ noColumns rfl ?_) ?_).congr fun b m => ?_
    · intro m
      have hnames : "\" (expected one of " ++
          (", ".intercalate (LayoutKind.all.map LayoutKind.name) ++ ")") =
            "\" (expected one of grid, flex, stack)" := by decide +kernel
      rw [PageLayout.knownKind, LayoutKind.isNone_ofName?_iff, String.append_assoc,
        String.append_assoc, hnames]
      simp [breaks_iff, hlayout]
    · simp [breaks_iff, hlayout]
    · simp [rank, Prod.Lex.toLex_lt_toLex]
    · cases b <;> simp [sectionRank, rank, breaks_iff, hlayout]

theorem lists_components : ListsBreaches Breach.path Breach.rank
    (fun b m => b.sectionRank = 2 ∧ d.Breaks b m)
    (sectionIssues "components" (issuesInTurn (Component.issues d.columns?) []) d.components) := by
  cases hcomponents : d.components with
  | none =>
    refine (singleton noComponents "missing required section").congr fun b m => ?_
    cases b <;> simp [sectionRank, rank, breaks_iff, hcomponents]
  | some cs =>
    refine (ListsBreaches.issuesInTurn (fun earlier c b m =>
      ∃ f, b = component earlier.length f ∧ c.Breaks d.layout earlier f m) ?_ ?_ [] cs).congr ?_
    · intro earlier c
      refine (c.lists_issues d.layout earlier earlier.length).map (component _) (fun _ => rfl) ?_
      exact fun b c hlt => rank_component_lt (.inr ⟨rfl, hlt⟩)
    · rintro e x _ m e' y _ n hlt ⟨f, rfl, -⟩ ⟨g, rfl, -⟩
      exact rank_component_lt (.inl hlt)
    · intro b m
      constructor
      · rintro ⟨before, c, after, rfl, f, rfl, hbroken⟩
        exact ⟨rfl, .component hcomponents hbroken⟩
      · rintro ⟨hsection, hbroken⟩
        cases hbroken with
        | component given broken =>
          cases hcomponents.symm.trans given
          exact ⟨_, _, _, rfl, _, rfl, broken⟩
        | noComponents absent => nomatch hcomponents.symm.trans absent
        | _ => nomatch hsection

theorem lists_dataSources : ListsBreaches Breach.path Breach.rank
    (fun b m => b.sectionRank = 3 ∧ d.Breaks b m)
    (issuesInTurn DataSource.issues [] d.dataSources) := by
  refine (ListsBreaches.issuesInTurn (fun earlier s b m =>
    ∃ f, b = dataSource earlier.length f ∧ s.Breaks earlier f m) ?_ ?_ [] d.dataSources).congr ?_
  · intro earlier s
    refine (s.lists_issues earlier earlier.length).map (dataSource _) (fun _ => rfl) ?_
    exact fun b c hlt => rank_dataSource_lt (.inr ⟨rfl, hlt⟩)
  · rintro e x _ m e' y _ n hlt ⟨f, rfl, -⟩ ⟨g, rfl, -⟩
    exact rank_dataSource_lt (.inl hlt)
  · intro b m
    constructor
    · rintro ⟨before, s, after, hsources, f, rfl, hbroken⟩
      exact ⟨rfl, .dataSource hsources hbroken⟩
    · rintro ⟨hsection, hbroken⟩
      cases hbroken with
      | dataSource given broken => exact ⟨_, _, _, given, _, rfl, broken⟩
      | _ => nomatch hsection

/-- The breaches of a descriptor, section by section. -/
theorem lists_breaches : ListsBreaches Breach.path Breach.rank d.Breaks d.validate.issues := by
  refine (((d.lists_page.append d.lists_layout ?_).append d.lists_components ?_).append
    d.lists_dataSources ?_).congr fun b m => ?_
  · rintro b m c n ⟨hb, -⟩ ⟨hc, -⟩
    exact rank_lt_of_sectionRank_lt (by omega)
  · rintro b m c n (⟨hb, -⟩ | ⟨hb, -⟩) ⟨hc, -⟩
    · exact rank_lt_of_sectionRank_lt (by omega)
    · exact rank_lt_of_sectionRank_lt (by omega)
  · rintro b m c n ((⟨hb, -⟩ | ⟨hb, -⟩) | ⟨hb, -⟩) ⟨hc, -⟩
    · exact rank_lt_of_sectionRank_lt (by omega)
    · exact rank_lt_of_sectionRank_lt (by omega)
    · exact rank_lt_of_sectionRank_lt (by omega)
  · cases b <;> simp [sectionRank, rank]

/-- No two components have one id, unless a rule is broken. -/
theorem nodup_ids_of_valid (hvalid : d.validate.issues = []) :
    (d.componentList.map Component.id).Nodup := by
  have hunbroken := d.lists_breaches.eq_nil_iff.1 hvalid
  unfold componentList
  cases hcomponents : d.components with
  | none => exact List.nodup_nil
  | some cs =>
    rw [Option.getD_some, List.Nodup, List.pairwise_map, List.pairwise_iff_getElem]
    intro i j hi hj hlt hsame
    have hsplit : cs = cs.take j ++ cs[j] :: cs.drop (j + 1) := by simp
    have hgiven := hcomponents.trans (congrArg some hsplit)
    have hbefore : cs[i] ∈ cs.take j := List.mem_take_iff_getElem.2 ⟨i, by omega, rfl⟩
    cases hblank : Text.blank cs[j].id with
    | true => exact hunbroken _ _ (.component hgiven (.blankId hblank))
    | false => exact hunbroken _ _ (.component hgiven (.takenId hblank hbefore hsame))

/-- **Validation reports every broken rule and nothing else.** -/
theorem validate_lists_breaches :
    (∃ breaches : List (Breach × String),
      d.validate.issues = breaches.map (fun b => ⟨b.1.path, b.2⟩) ∧
      breaches.Pairwise (fun a b => a.1.rank < b.1.rank) ∧
      ∀ b message, (b, message) ∈ breaches ↔ d.Breaks b message) ∧
    (d.validate.isValid = true ↔ ∀ b message, ¬d.Breaks b message) := by
  refine ⟨d.lists_breaches, ?_⟩
  rw [Report.isValid, List.isEmpty_iff]
  exact d.lists_breaches.eq_nil_iff

end Descriptor

end ThemedPages
