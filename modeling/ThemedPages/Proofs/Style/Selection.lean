import ThemedPages.Proofs.Compose.Markup
import ThemedPages.Proofs.Style.Reading
import ThemedPages.Proofs.Style.SharedElements

/-!
# Which page a selector selects

The id of a page is written twice: into the selector of its rule, as a string of CSS, and into an
attribute of its container, as markup. Each writer has an escape of its own, and a style reaches its
page only if both are undone.

Markup has a reference for every character that could end the attribute. A string of CSS cannot
have a line end in it, and the writer of selectors guards only backslashes and quotes.

**Theorem (`selects_iff`).** A selector selects the container of its own page and no other; it
selects none if the id of the page has a line end.
-/

namespace ThemedPages

/-! ## Strings in selectors -/

namespace Css

/-- The digits of escapes by number. -/
def isHexDigit (c : Char) : Bool :=
  c.isDigit || ('a' ≤ c && c ≤ 'f') || ('A' ≤ c && c ≤ 'F')

/-- What a string says that is read from after its opening quote on, and what comes after it. A
backslash guards the character after it. Escapes by number and escaped line ends are not read, as
selectors are not written with them. -/
def readString : List Char → Option (List Char × List Char)
  | [] => none
  | '\\' :: c :: rest =>
    if isHexDigit c || isLineEnd c then none
    else (readString rest).map fun (cs, rest) => (c :: cs, rest)
  | c :: rest =>
    if c = '"' then some ([], rest)
    else if c = '\\' || isLineEnd c then none
    else (readString rest).map fun (cs, rest) => (c :: cs, rest)

/-- The name and the value of an attribute selector, if a selector is one and nothing else. -/
def attributeSelector? (selector : String) : Option (String × String) :=
  match selector.toList with
  | '[' :: rest =>
    match rest.dropWhile isNameChar with
    | '=' :: '"' :: text =>
      match readString text with
      | some (value, [']']) =>
        some (String.ofList (rest.takeWhile isNameChar), String.ofList value)
      | _ => none
    | _ => none
  | _ => none

/-- A page id within quotes is read back up to a line end in it. -/
theorem readString_quotedPage (page : String) (rest : List Char) :
    readString (quotedPage page ++ '"' :: rest) =
      if page.toList.any isLineEnd then none else some (page.toList, rest) := by
  unfold quotedPage
  induction page.toList with
  | nil => rfl
  | cons c cs ih =>
    rw [List.flatMap_cons, List.append_assoc, List.any_cons]
    by_cases hguarded : c = '\\' ∨ c = '"'
    · have hends : isHexDigit c = false ∧ isLineEnd c = false := by
        rcases hguarded with rfl | rfl <;> decide
      have hwritten : (c == '\\' || c == '"') = true := by simpa using hguarded
      rw [if_pos hwritten, List.cons_append, List.singleton_append, readString, ih, hends.1,
        hends.2]
      cases cs.any isLineEnd <;> rfl
    · have hwritten : (c == '\\' || c == '"') = false := by simpa using hguarded
      rw [not_or] at hguarded
      rw [hwritten, if_neg Bool.false_ne_true, List.singleton_append, readString, ih,
        if_neg hguarded.2]
      · cases isLineEnd c <;> cases cs.any isLineEnd <;> simp [hguarded.1]
      · intro d rest hc
        exact absurd hc hguarded.1

/-- **The selector of a page.** It is an attribute selector for the page's id, if no line ends in
it. -/
theorem attributeSelector?_selectorOf (page : String) :
    attributeSelector? (({} : StyleOptions).selectorOf page) =
      if page.toList.any isLineEnd then none else some ("data-page-id", page) := by
  have hname : ∀ c ∈ "data-page-id".toList, isNameChar c = true :=
    List.all_eq_true.1 (by decide)
  have htext : (({} : StyleOptions).selectorOf page).toList = '[' :: ("data-page-id".toList ++
      '=' :: '"' :: (quotedPage page ++ ['"', ']'])) := toList_selectorOf_default page
  have hrest : ("data-page-id".toList ++ '=' :: '"' :: (quotedPage page ++ ['"', ']'])).dropWhile
      isNameChar = '=' :: '"' :: (quotedPage page ++ ['"', ']']) :=
    List.dropWhile_append_of_pos hname
  have hword : ("data-page-id".toList ++ '=' :: '"' :: (quotedPage page ++ ['"', ']'])).takeWhile
      isNameChar = "data-page-id".toList := by
    rw [List.takeWhile_append_of_pos hname]
    exact List.append_nil _
  simp only [attributeSelector?, htext, hrest, hword, readString_quotedPage]
  cases page.toList.any isLineEnd
  · simp
  · rfl

end Css

/-! ## Character references -/

namespace Markup

open Text.Html (escape escapeChar toList_escape)

/-- The characters that markup has names for. There are many; these are always among them. -/
structure CharacterNames where
  char? : String → Option Char
  amp : char? "amp" = some '&'
  lt : char? "lt" = some '<'
  gt : char? "gt" = some '>'
  quot : char? "quot" = some '"'

/-- The names that cannot be missing, and no other. -/
def CharacterNames.least : CharacterNames where
  char? name := [("amp", '&'), ("lt", '<'), ("gt", '>'), ("quot", '"')].lookup name
  amp := rfl
  lt := rfl
  gt := rfl
  quot := rfl

/-- The number that digits make up. -/
def number (base : Nat) (digits : List Char) : Nat :=
  digits.foldl (fun n c => base * n + (if c.isDigit then c.toNat - 48 else c.toLower.toNat - 87)) 0

/-- The character for what stands between an ampersand and a semicolon. -/
def reference? (names : CharacterNames) : List Char → Option Char
  | '#' :: 'x' :: digits =>
    if digits ≠ [] ∧ digits.all Css.isHexDigit then some (Char.ofNat (number 16 digits)) else none
  | '#' :: digits =>
    if digits ≠ [] ∧ digits.all Char.isDigit then some (Char.ofNat (number 10 digits)) else none
  | name => names.char? (String.ofList name)

/-- A text with its references replaced by their characters; `begun` is what has been read of a
reference. -/
def decode (names : CharacterNames) : (begun : Option (List Char)) → List Char → List Char
  | none, [] => []
  | some name, [] => '&' :: name
  | none, c :: rest =>
    if c = '&' then decode names (some []) rest else c :: decode names none rest
  | some name, c :: rest =>
    if c = ';' then
      match reference? names name with
      | some d => d :: decode names none rest
      | none => '&' :: name ++ ';' :: decode names none rest
    else if c.isAlphanum || c = '#' then decode names (some (name ++ [c])) rest
    else if c = '&' then '&' :: name ++ decode names (some []) rest
    else '&' :: name ++ c :: decode names none rest

variable (names : CharacterNames)

theorem decode_begun {cs : List Char} (hcs : ∀ c ∈ cs, (c.isAlphanum || c = '#') = true)
    (name rest : List Char) :
    decode names (some name) (cs ++ rest) = decode names (some (name ++ cs)) rest := by
  induction cs generalizing name with
  | nil => rw [List.nil_append, List.append_nil]
  | cons c cs ih =>
    have hc := hcs c List.mem_cons_self
    have hsemicolon : c ≠ ';' := by
      intro h
      rw [h] at hc
      cases hc
    rw [List.cons_append, decode, if_neg hsemicolon, if_pos hc,
      ih fun c hc => hcs c (List.mem_cons_of_mem _ hc), List.append_assoc, List.singleton_append]

theorem decode_reference (name : List Char) {c : Char}
    (hname : ∀ c ∈ name, (c.isAlphanum || c = '#') = true) (hc : reference? names name = some c)
    (rest : List Char) : decode names none ('&' :: (name ++ ';' :: rest)) =
      c :: decode names none rest := by
  rw [decode, if_pos rfl, decode_begun names hname, List.nil_append, decode, if_pos rfl, hc]

/-- The written form of a character stands for it. -/
theorem decode_escapeChar (c : Char) (rest : List Char) :
    decode names none (escapeChar c ++ rest) = c :: decode names none rest := by
  unfold escapeChar
  split
  · exact decode_reference names "amp".toList (List.all_eq_true.1 (by decide)) names.amp rest
  · exact decode_reference names "lt".toList (List.all_eq_true.1 (by decide)) names.lt rest
  · exact decode_reference names "gt".toList (List.all_eq_true.1 (by decide)) names.gt rest
  · exact decode_reference names "quot".toList (List.all_eq_true.1 (by decide)) names.quot rest
  · exact decode_reference names "#39".toList (List.all_eq_true.1 (by decide)) rfl rest
  · rename_i hamp _ _ _ _
    rw [List.singleton_append, decode, if_neg hamp]

/-- **An escaped text is read back.** -/
theorem decode_escape (s : String) : decode names none (escape s).toList = s.toList := by
  rw [toList_escape]
  induction s.toList with
  | nil => rfl
  | cons c cs ih => rw [List.flatMap_cons, decode_escapeChar, ih]

/-! ## Attributes -/

/-- The attributes of a start tag from a point in it on; `name` is what has been read of a name, and
`value` of a value. -/
def attributesFrom : (name : List Char) → (value : Option (List Char)) → List Char →
    List (String × String)
  | _, _, [] => []
  | name, none, c :: rest =>
    if c = '>' then []
    else if c = '"' then attributesFrom name (some []) rest
    else if c = ' ' then attributesFrom [] none rest
    else if c = '=' then attributesFrom name none rest
    else attributesFrom (name ++ [c]) none rest
  | name, some value, c :: rest =>
    if c = '"' then
      (String.ofList name, String.ofList (decode names none value)) :: attributesFrom [] none rest
    else attributesFrom name (some (value ++ [c])) rest

/-- The attributes of the start tag at the beginning of a text. -/
def attributes (html : String) : List (String × String) :=
  match html.toList with
  | '<' :: rest => attributesFrom names [] none rest
  | _ => []

theorem attributesFrom_blank (name rest : List Char) :
    attributesFrom names name none (' ' :: rest) = attributesFrom names [] none rest := by
  simp [attributesFrom]

theorem attributesFrom_quote (name rest : List Char) :
    attributesFrom names name none ('=' :: '"' :: rest) =
      attributesFrom names name (some []) rest := by
  simp [attributesFrom]

theorem attributesFrom_name {cs : List Char} (hcs : ∀ c ∈ cs, isNameChar c = true)
    (name rest : List Char) :
    attributesFrom names name none (cs ++ rest) = attributesFrom names (name ++ cs) none rest := by
  induction cs generalizing name with
  | nil => rw [List.nil_append, List.append_nil]
  | cons c cs ih =>
    have hne : c ≠ '>' ∧ c ≠ '"' ∧ c ≠ ' ' ∧ c ≠ '=' := by
      have hc := hcs c List.mem_cons_self
      refine ⟨?_, ?_, ?_, ?_⟩ <;>
        · intro h
          rw [h] at hc
          cases hc
    have hrest := ih (fun c hc => hcs c (List.mem_cons_of_mem _ hc)) (name ++ [c])
    simp [attributesFrom, hne, hrest]

theorem attributesFrom_value {cs : List Char} (hcs : '"' ∉ cs) (name value rest : List Char) :
    attributesFrom names name (some value) (cs ++ '"' :: rest) =
      (String.ofList name, String.ofList (decode names none (value ++ cs))) ::
        attributesFrom names [] none rest := by
  induction cs generalizing value with
  | nil => simp [attributesFrom]
  | cons c cs ih =>
    rw [List.mem_cons, not_or] at hcs
    have hrest := ih hcs.2 (value ++ [c])
    simp [attributesFrom, Ne.symm hcs.1, hrest]

/-- An attribute with an escaped text is read as that text. -/
theorem attributesFrom_escape {name : List Char} (hname : ∀ c ∈ name, isNameChar c = true)
    (s : String) (begun rest : List Char) :
    attributesFrom names begun none (' ' :: (name ++ '=' :: '"' :: ((escape s).toList ++
        '"' :: rest))) = (String.ofList name, s) :: attributesFrom names [] none rest := by
  have hquote : '"' ∉ (escape s).toList := by
    intro hmem
    have hboundary : '"' ∈ boundaries (escape s) := List.mem_filter.2 ⟨hmem, rfl⟩
    rw [boundaries_escape] at hboundary
    cases hboundary
  rw [attributesFrom_blank, attributesFrom_name names hname, List.nil_append,
    attributesFrom_quote, attributesFrom_value names hquote, List.nil_append, decode_escape,
    String.ofList_toList]

/-- How the markup of a page begins. -/
theorem toList_html (page : ComposedPage) :
    ∃ rest, page.html.toList = '<' :: ("main".toList ++ ' ' :: ("data-page-id".toList ++
      '=' :: '"' :: ((escape page.id).toList ++ '"' :: rest))) := by
  have hhtml : ∃ tail, page.html =
      "<main data-page-id=\"" ++ (escape page.id ++ ("\" data-layout=\"" ++ tail)) := by
    unfold ComposedPage.html
    simp only [String.append_assoc]
    exact ⟨_, rfl⟩
  obtain ⟨tail, hhtml⟩ := hhtml
  have hstart : "<main data-page-id=\"".toList =
      '<' :: ("main".toList ++ ' ' :: ("data-page-id".toList ++ ['=', '"'])) := by decide
  have hend : "\" data-layout=\"".toList = '"' :: " data-layout=\"".toList := by decide
  refine ⟨" data-layout=\"".toList ++ tail.toList, ?_⟩
  rw [hhtml, String.toList_append, String.toList_append, String.toList_append, hstart, hend]
  simp only [List.cons_append, List.append_assoc, List.nil_append]

/-- **The container of a page.** Its attribute is the page's id. -/
theorem lookup_attributes_html (page : ComposedPage) :
    (attributes names page.html).lookup "data-page-id" = some page.id := by
  obtain ⟨rest, htext⟩ := toList_html page
  have hread : attributes names page.html =
      ("data-page-id", page.id) :: attributesFrom names [] none rest := by
    simp only [attributes, htext]
    rw [attributesFrom_name names (List.all_eq_true.1 (by decide)),
      attributesFrom_escape names (List.all_eq_true.1 (by decide)), String.ofList_toList]
  rw [hread, List.lookup_cons_self]

/-! ## Selecting -/

/-- A selector for an attribute selects the element that a text begins with. -/
def Selects (selector html : String) : Prop :=
  ∃ name value, Css.attributeSelector? selector = some (name, value) ∧
    (attributes names html).lookup name = some value

/-- **Which pages are selected.** -/
theorem selects_iff (page : String) (c : ComposedPage) :
    Css.attributeSelector? (({} : StyleOptions).selectorOf page) =
      (if page.toList.any Css.isLineEnd then none else some ("data-page-id", page)) ∧
    (attributes names c.html).lookup "data-page-id" = some c.id ∧
    (Selects names (({} : StyleOptions).selectorOf page) c.html ↔
      c.id = page ∧ page.toList.any Css.isLineEnd = false) := by
  refine ⟨Css.attributeSelector?_selectorOf page, lookup_attributes_html names c, ?_⟩
  rw [Selects, Css.attributeSelector?_selectorOf]
  by_cases hends : page.toList.any Css.isLineEnd = true
  · simp [hends]
  · simp only [Bool.not_eq_true] at hends
    simp only [hends, Bool.false_eq_true, if_false, Option.some.injEq, Prod.mk.injEq, and_true]
    constructor
    · intro hselects
      obtain ⟨_, _, ⟨rfl, rfl⟩, hvalue⟩ := hselects
      rw [lookup_attributes_html] at hvalue
      exact Option.some.inj hvalue
    · intro hid
      rw [← hid]
      exact ⟨_, _, ⟨rfl, rfl⟩, lookup_attributes_html names c⟩

/-- A page without components whose id has a line end. -/
def twoLines : ComposedPage := { id := "a\nb", title := "", layout := {}, theme := none, nodes := [] }

/-- **A page that no rule reaches.** Its selector is cut off at the line end. -/
theorem not_selects_twoLines :
    Css.attributeSelector? (({} : StyleOptions).selectorOf "a\nb") = none ∧
    ¬ Selects .least (({} : StyleOptions).selectorOf twoLines.id) twoLines.html := by
  have hnone : Css.attributeSelector? (({} : StyleOptions).selectorOf "a\nb") = none := by decide
  refine ⟨hnone, ?_⟩
  intro hselects
  obtain ⟨name, value, hread, -⟩ := hselects
  exact Option.some_ne_none _ (hread.symm.trans hnone)

end Markup

end ThemedPages
