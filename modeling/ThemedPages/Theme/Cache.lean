import ThemedPages.Theme.Basic

/-!
# The cache of resolved themes

Two relations are kept: the resolved theme under each key, and the key that each page is bound to.
Nothing expires; rows are only dropped. A page is served from the cache when it is bound and the
theme under its key is there.
-/

namespace ThemedPages

/-- A cache of resolved themes. -/
structure ThemeCache where
  /-- Themes, by id. -/
  themes : Table ResolvedTheme := .empty
  /-- Variations, by id. -/
  variations : Table ResolvedTheme := .empty
  /-- The keys that pages are bound to. -/
  pages : Table ThemeKey := .empty
  /-- How often a page was served. -/
  hits : Nat := 0
  /-- How often a page was not. -/
  misses : Nat := 0
  deriving DecidableEq

namespace ThemeCache

/-- The resolved theme under a key. -/
def get? (c : ThemeCache) : ThemeKey → Option ResolvedTheme
  | .theme id => c.themes.get? id
  | .variation id => c.variations.get? id

/-- The key that a page is bound to. -/
def pageKey? (c : ThemeCache) (page : String) : Option ThemeKey := c.pages.get? page

/-- The resolved theme that a page is bound to. -/
def pageTheme? (c : ThemeCache) (page : String) : Option ResolvedTheme :=
  (c.pageKey? page).bind c.get?

/-- Count that a page was served. -/
def countHit (c : ThemeCache) : ThemeCache := { c with hits := c.hits + 1 }

/-- Count that a page was not served. -/
def countMiss (c : ThemeCache) : ThemeCache := { c with misses := c.misses + 1 }

/-- Look up a page, and count whether it was served. -/
def serve (c : ThemeCache) (page : String) : Option ResolvedTheme × ThemeCache :=
  match c.pageTheme? page with
  | some t => (some t, c.countHit)
  | none => (none, c.countMiss)

/-- Keep a resolved theme under a key. -/
def put (c : ThemeCache) (key : ThemeKey) (t : ResolvedTheme) : ThemeCache :=
  match key with
  | .theme id => { c with themes := c.themes.insert id t }
  | .variation id => { c with variations := c.variations.insert id t }

/-- Keep a resolved theme under a key, and bind a page to the key. -/
def bind (c : ThemeCache) (page : String) (key : ThemeKey) (t : ResolvedTheme) : ThemeCache :=
  { c.put key t with pages := c.pages.insert page key }

/-- Unbind a page. -/
def unbind (c : ThemeCache) (page : String) : ThemeCache := { c with pages := c.pages.erase page }

/-- Drop what is under a key, and unbind the pages that are bound to it. -/
def drop (c : ThemeCache) (key : ThemeKey) : ThemeCache :=
  let pages := c.pages.filter fun _ k => k != key
  match key with
  | .theme id => { c with themes := c.themes.erase id, pages }
  | .variation id => { c with variations := c.variations.erase id, pages }

/-- The keys of a theme and of the variations derived from it, as far as they are cached. -/
def family (c : ThemeCache) (themeId : String) : List ThemeKey :=
  (if c.themes.contains themeId then [.theme themeId] else []) ++
    (c.variations.filter fun _ t => t.parentId == some themeId).keys.map .variation

/-- Drop a theme and the variations derived from it. -/
def dropFamily (c : ThemeCache) (themeId : String) : ThemeCache :=
  (c.family themeId).foldl drop c

/-- Drop all rows; the counts stay. -/
def clear (c : ThemeCache) : ThemeCache := { hits := c.hits, misses := c.misses }

/-- The cached keys: themes before variations, each by id. -/
def keys (c : ThemeCache) : List ThemeKey :=
  c.themes.keys.map .theme ++ c.variations.keys.map .variation

/-- The number of cached themes and variations. -/
def size (c : ThemeCache) : Nat := c.themes.size + c.variations.size

/-! ## What is cached afterwards -/

variable (c : ThemeCache) (k key : ThemeKey) (page q : String) (t : ResolvedTheme)

@[simp] theorem get?_countHit : c.countHit.get? k = c.get? k := by cases k <;> rfl

@[simp] theorem pageKey?_countHit : c.countHit.pageKey? q = c.pageKey? q := rfl

@[simp] theorem get?_countMiss : c.countMiss.get? k = c.get? k := by cases k <;> rfl

@[simp] theorem pageKey?_countMiss : c.countMiss.pageKey? q = c.pageKey? q := rfl

theorem get?_put : (c.put key t).get? k = if k = key then some t else c.get? k := by
  cases key <;> cases k <;> simp [put, get?, Table.get?_insert]

@[simp] theorem pageKey?_put : (c.put key t).pageKey? q = c.pageKey? q := by cases key <;> rfl

theorem get?_bind : (c.bind page key t).get? k = if k = key then some t else c.get? k := by
  rw [← get?_put]
  cases k <;> rfl

theorem pageKey?_bind :
    (c.bind page key t).pageKey? q = if q = page then some key else c.pageKey? q := by
  simp only [bind, pageKey?, Table.get?_insert]

@[simp] theorem get?_unbind : (c.unbind page).get? k = c.get? k := by cases k <;> rfl

theorem pageKey?_unbind :
    (c.unbind page).pageKey? q = if q = page then none else c.pageKey? q := by
  simp only [unbind, pageKey?, Table.get?_erase]

theorem get?_drop : (c.drop key).get? k = if k = key then none else c.get? k := by
  cases key <;> cases k <;> simp [drop, get?, Table.get?_erase]

theorem pageKey?_drop : (c.drop key).pageKey? q = (c.pageKey? q).filter (· != key) := by
  cases key <;> simp only [drop, pageKey?, Table.get?_filter]

@[simp] theorem get?_clear : c.clear.get? k = none := by cases k <;> rfl

@[simp] theorem pageKey?_clear : c.clear.pageKey? q = none := rfl

theorem pageKey?_of_pageTheme? (h : c.pageTheme? page = some t) :
    ∃ key, c.pageKey? page = some key ∧ c.get? key = some t :=
  Option.bind_eq_some_iff.1 h

theorem pageTheme?_countHit : c.countHit.pageTheme? q = c.pageTheme? q := by
  simp only [pageTheme?, pageKey?_countHit, funext c.get?_countHit]

theorem pageTheme?_countMiss : c.countMiss.pageTheme? q = c.pageTheme? q := by
  simp only [pageTheme?, pageKey?_countMiss, funext c.get?_countMiss]

/-! ## Families -/

/-- Whether a cached theme is a given theme, or derived from it. -/
def isFamily (themeId : String) : ThemeKey → ResolvedTheme → Bool
  | .theme id, _ => id == themeId
  | .variation _, t => t.parentId == some themeId

theorem mem_family (themeId : String) :
    k ∈ c.family themeId ↔ ∃ t, c.get? k = some t ∧ isFamily themeId k t = true := by
  cases k with
  | theme id =>
    by_cases hid : id = themeId
    · subst hid
      simp [family, get?, isFamily, Table.contains_iff]
    · simp [family, isFamily, hid]
  | variation id =>
    simp [family, get?, isFamily, Table.mem_keys_iff, Table.contains_iff, Table.get?_filter,
      Option.filter_eq_some_iff]

theorem get?_dropAll (keys : List ThemeKey) :
    (keys.foldl drop c).get? k = if k ∈ keys then none else c.get? k := by
  induction keys generalizing c with
  | nil => simp
  | cons key keys ih =>
    rw [List.foldl_cons, ih, get?_drop]
    by_cases hkey : k = key <;> by_cases hk : k ∈ keys <;> simp [hkey, hk]

theorem pageKey?_dropAll (keys : List ThemeKey) :
    (keys.foldl drop c).pageKey? q = (c.pageKey? q).filter (· ∉ keys) := by
  induction keys generalizing c with
  | nil => cases h : c.pageKey? q <;> simp [h, Option.filter]
  | cons key keys ih =>
    rw [List.foldl_cons, ih, pageKey?_drop, Option.filter_filter]
    congr 1
    funext k
    by_cases hkey : k = key <;> simp [hkey]

theorem get?_dropFamily (themeId : String) : (c.dropFamily themeId).get? k =
    (c.get? k).filter fun t => !isFamily themeId k t := by
  rw [dropFamily, get?_dropAll]
  by_cases hk : k ∈ c.family themeId
  · obtain ⟨t, ht, hfamily⟩ := (c.mem_family k themeId).1 hk
    simp [hk, ht, Option.filter, hfamily]
  · rw [if_neg hk]
    cases ht : c.get? k with
    | none => rfl
    | some t =>
      have hfamily : isFamily themeId k t = false :=
        eq_false_of_ne_true fun h => hk ((c.mem_family k themeId).2 ⟨t, ht, h⟩)
      simp [Option.filter, hfamily]

theorem pageKey?_dropFamily (themeId : String) :
    (c.dropFamily themeId).pageKey? q = (c.pageKey? q).filter (· ∉ c.family themeId) := by
  rw [dropFamily, pageKey?_dropAll]

end ThemeCache

end ThemedPages
