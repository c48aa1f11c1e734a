import ThemedPages.Style.Element

/-!
# Reading stylesheets

What a stylesheet says, by the lexical rules of CSS. A comment, a string, a pair of brackets, and a
backslash take in the characters that come next. Where nothing does, an opening brace ends a
selector, a semicolon ends a declaration, and a closing brace ends a block.

A value is *contained* if nothing takes in the character after it. The text of a rule says what the
rule says as long as its values are: the first that is not contained takes in the semicolon that is
written to end it, and so it is read as a longer one. That is decided where the value ends, so this
goes declaration by declaration, with those before it already read.

**Theorem (`readRules_css_iff`).** Rules are read back from their text iff all their values are
contained.
-/

namespace ThemedPages.Css

/-! ## Lexical rules -/

/-- The characters that end a line. -/
def isLineEnd (c : Char) : Bool := c == '\n' || c == '\r' || c == '\x0c'

/-- The blank characters. -/
def isSpace (c : Char) : Bool := c == ' ' || c == '\t' || isLineEnd c

/-- What the next character belongs to. -/
inductive Lexeme
  | plain
  /-- Nothing yet; the character before it is a slash. -/
  | slash
  | comment
  /-- A comment; the character before it is an asterisk. -/
  | asterisk
  | string (quote : Char)
  /-- A backslash, in a string with these quotes or outside of strings. -/
  | escape (quote : Option Char)
  deriving DecidableEq

/-- Where a reader stands. -/
structure Point where
  lexeme : Lexeme := .plain
  /-- What closes the open brackets, the innermost first. -/
  closers : List Char := []
  deriving DecidableEq

namespace Point

/-- Past a character outside of comments and strings. A brace counts as a bracket within one. -/
def stepPlain (p : Point) (c : Char) : Point :=
  match c with
  | '/' => { p with lexeme := .slash }
  | '"' => { p with lexeme := .string '"' }
  | '\'' => { p with lexeme := .string '\'' }
  | '\\' => { p with lexeme := .escape none }
  | '(' => ⟨.plain, ')' :: p.closers⟩
  | '[' => ⟨.plain, ']' :: p.closers⟩
  | '\x7b' => ⟨.plain, if p.closers.isEmpty then [] else '\x7d' :: p.closers⟩
  | c => ⟨.plain, if p.closers.head? = some c then p.closers.tail else p.closers⟩

/-- Past a character. -/
def step (p : Point) (c : Char) : Point :=
  match p.lexeme with
  | .plain => p.stepPlain c
  | .slash => if c = '*' then { p with lexeme := .comment } else p.stepPlain c
  | .comment => { p with lexeme := if c = '*' then .asterisk else .comment }
  | .asterisk =>
    { p with lexeme := if c = '/' then .plain else if c = '*' then .asterisk else .comment }
  | .string quote =>
    { p with
      lexeme :=
        if c = quote || isLineEnd c then .plain
        else if c = '\\' then .escape (some quote)
        else .string quote }
  | .escape none => { p with lexeme := .plain }
  | .escape (some quote) => { p with lexeme := .string quote }

/-- Past some characters. -/
def after (p : Point) (cs : List Char) : Point := cs.foldl step p

/-- Whether nothing takes in the next character. -/
def isFree (p : Point) : Bool := (p.lexeme == .plain || p.lexeme == .slash) && p.closers.isEmpty

end Point

/-- Nothing takes in the character after a value. -/
def Contained (value : String) : Prop := (({} : Point).after value.toList).isFree = true

instance (value : String) : Decidable (Contained value) :=
  inferInstanceAs (Decidable (_ = true))

example : ∀ value ∈ ["\"", "'", "/*", "(", "[", "\\"], ¬ Contained value := by decide

/-! ## Rules -/

/-- The characters that end a part of a stylesheet. -/
def isStop (c : Char) : Bool := c == '\x7b' || c == '\x7d' || c == ';'

/-- A text cut at every stop that nothing takes in: the text before the first one, and each of them
with the text after it. -/
def parts : Point → List Char → List Char × List (Char × List Char)
  | _, [] => ([], [])
  | p, c :: rest =>
    let (first, more) := parts (p.step c) rest
    if p.isFree && isStop c then ([], (c, first) :: more) else (c :: first, more)

/-- A text without the blanks at both ends. -/
def trim (cs : List Char) : List Char := ((cs.dropWhile isSpace).reverse.dropWhile isSpace).reverse

/-- The declaration in a part of a block. The blank that is written after the colon is not a part
of the value. -/
def declaration? (text : List Char) : Option (String × String) :=
  let name := String.ofList (trim (text.takeWhile (· != ':')))
  match text.dropWhile (· != ':') with
  | _ :: ' ' :: value => some (name, String.ofList value)
  | _ :: value => some (name, String.ofList value)
  | [] => none

/-- A rule with what a part of its block declares. -/
def declare (r : StyleRule) (text : List Char) : StyleRule :=
  { r with declarations := r.declarations ++ (declaration? text).toList }

/-- The rules that parts make up; `block` is the rule that is being read, if any. The end of the
text closes a block, and a stop in the wrong place is a part of the text. -/
def rulesOf : (block : Option StyleRule) → (text : List Char) → List (Char × List Char) →
    List StyleRule
  | none, _, [] => []
  | none, text, (stop, next) :: more =>
    if stop == '\x7b' then rulesOf (some ⟨String.ofList (trim text), []⟩) next more
    else rulesOf none (text ++ stop :: next) more
  | some r, text, [] => [declare r text]
  | some r, text, (stop, next) :: more =>
    if stop == '\x7d' then declare r text :: rulesOf none next more
    else if stop == ';' then rulesOf (some (declare r text)) next more
    else rulesOf (some r) (text ++ stop :: next) more

/-- The rules in a text, from a point on that nothing takes in. -/
def rulesFrom (block : Option StyleRule) (cs : List Char) : List StyleRule :=
  rulesOf block (parts {} cs).1 (parts {} cs).2

/-- The rules of a stylesheet. -/
def readRules (css : String) : List StyleRule := rulesFrom none css.toList

/-! ## Points -/

/-- The characters that neither open anything nor go on with it. -/
def isInert (c : Char) : Bool :=
  c != '/' && c != '*' && c != '"' && c != '\'' && c != '\\' && c != '(' && c != '['

variable {p : Point} {c : Char} {cs t rest : List Char}

theorem Point.after_append (p : Point) (cs cs' : List Char) :
    p.after (cs ++ cs') = (p.after cs).after cs' := List.foldl_append

theorem Point.after_concat (p : Point) (cs : List Char) (c : Char) :
    p.after (cs ++ [c]) = (p.after cs).step c := p.after_append cs [c]

theorem Point.step_of_isFree (hp : p.isFree = true) (hc : isInert c = true) : p.step c = {} := by
  obtain ⟨lexeme, closers⟩ := p
  simp only [isFree, Bool.and_eq_true, Bool.or_eq_true, beq_iff_eq, List.isEmpty_iff] at hp
  obtain ⟨hlexeme, rfl⟩ := hp
  simp only [isInert, Bool.and_eq_true, bne_iff_ne] at hc
  have hplain : ∀ l : Lexeme, (⟨l, []⟩ : Point).stepPlain c = {} := by
    intro l
    unfold stepPlain
    split <;> simp_all
  rcases hlexeme with rfl | rfl <;> simp [step, hplain, hc]

theorem Point.after_of_inert (hcs : ∀ c ∈ cs, isInert c = true) : ({} : Point).after cs = {} := by
  induction cs with
  | nil => rfl
  | cons c cs ih =>
    have hstep : ({} : Point).step c = {} := step_of_isFree rfl (hcs c List.mem_cons_self)
    rw [after, List.foldl_cons, hstep]
    exact ih fun c hc => hcs c (List.mem_cons_of_mem _ hc)

theorem isInert_of_isStop (hc : isStop c = true) : isInert c = true := by
  simp only [isStop, Bool.or_eq_true, beq_iff_eq] at hc
  rcases hc with (rfl | rfl) | rfl <;> rfl

theorem isInert_of_isSpace (hc : isSpace c = true) : isInert c = true := by
  simp only [isSpace, isLineEnd, Bool.or_eq_true, beq_iff_eq] at hc
  rcases hc with (rfl | rfl) | (rfl | rfl) | rfl <;> rfl

theorem isStop_of_isSpace (hc : isSpace c = true) : isStop c = false := by
  simp only [isSpace, isLineEnd, Bool.or_eq_true, beq_iff_eq] at hc
  rcases hc with (rfl | rfl) | (rfl | rfl) | rfl <;> rfl

/-! ## Parts -/

theorem parts_append (ht : ∀ c ∈ t, isStop c = false) (p : Point) (rest : List Char) :
    parts p (t ++ rest) = (t ++ (parts (p.after t) rest).1, (parts (p.after t) rest).2) := by
  induction t generalizing p with
  | nil => rfl
  | cons c t ih =>
    have hrest := ih (fun c hc => ht c (List.mem_cons_of_mem _ hc)) (p.step c)
    simp [parts, hrest, ht c List.mem_cons_self, Point.after]

/-- A stop ends a part if nothing takes it in. -/
theorem parts_append_stop (ht : ∀ c ∈ t, isStop c = false) (hp : (p.after t).isFree = true)
    (hc : isStop c = true) (rest : List Char) :
    parts p (t ++ c :: rest) = (t, (c, (parts {} rest).1) :: (parts {} rest).2) := by
  rw [parts_append ht]
  simp [parts, hp, hc, Point.step_of_isFree hp (isInert_of_isStop hc)]

/-- A character that something takes in does not end a part. -/
theorem parts_append_taken (ht : ∀ c ∈ t, isStop c = false) (hp : (p.after t).isFree = false)
    (c : Char) (rest : List Char) :
    ∃ more, parts p (t ++ c :: rest) = (t ++ c :: more, (parts ((p.after t).step c) rest).2) := by
  rw [parts_append ht]
  exact ⟨(parts ((p.after t).step c) rest).1, by simp [parts, hp]⟩

/-! ## Rules from a point on -/

theorem rulesFrom_of_no_stop (ht : ∀ c ∈ t, isStop c = false) : rulesFrom none t = [] := by
  have hparts := parts_append ht {} []
  rw [List.append_nil] at hparts
  rw [rulesFrom, hparts]
  rfl

theorem rulesFrom_open (ht : ∀ c ∈ t, isStop c = false) (hp : (({} : Point).after t).isFree = true)
    (rest : List Char) :
    rulesFrom none (t ++ '\x7b' :: rest) = rulesFrom (some ⟨String.ofList (trim t), []⟩) rest := by
  rw [rulesFrom, parts_append_stop ht hp rfl]
  rfl

theorem rulesFrom_close (r : StyleRule) (ht : ∀ c ∈ t, isStop c = false)
    (hp : (({} : Point).after t).isFree = true) (rest : List Char) :
    rulesFrom (some r) (t ++ '\x7d' :: rest) = declare r t :: rulesFrom none rest := by
  rw [rulesFrom, parts_append_stop ht hp rfl]
  rfl

theorem rulesFrom_semicolon (r : StyleRule) (ht : ∀ c ∈ t, isStop c = false)
    (hp : (({} : Point).after t).isFree = true) (rest : List Char) :
    rulesFrom (some r) (t ++ ';' :: rest) = rulesFrom (some (declare r t)) rest := by
  rw [rulesFrom, parts_append_stop ht hp rfl]
  rfl

/-- What is declared first is what stands first, whatever it runs into. -/
theorem head?_rulesOf (r : StyleRule) (t : List Char) (more : List (Char × List Char)) :
    ∃ t' ds, (rulesOf (some r) t more).head? =
      some ⟨r.selector, (declare r (t ++ t')).declarations ++ ds⟩ := by
  induction more generalizing r t with
  | nil => exact ⟨[], [], by simp [rulesOf, declare]⟩
  | cons part more ih =>
    obtain ⟨stop, next⟩ := part
    by_cases hclose : stop = '\x7d'
    · exact ⟨[], [], by simp [rulesOf, declare, hclose]⟩
    · by_cases hsemicolon : stop = ';'
      · subst hsemicolon
        have hstep : rulesOf (some r) t ((';', next) :: more) =
            rulesOf (some (declare r t)) next more := rfl
        obtain ⟨t', ds, hhead⟩ := ih (declare r t) next
        refine ⟨[], (declaration? (next ++ t')).toList ++ ds, ?_⟩
        rw [hstep, hhead]
        simp [declare]
      · obtain ⟨t', ds, hhead⟩ := ih r (t ++ stop :: next)
        refine ⟨stop :: next ++ t', ds, ?_⟩
        simp [rulesOf, hclose, hsemicolon, hhead]

/-! ## Blanks -/

theorem dropWhile_isSpace {pre post : List Char} (hpre : ∀ c ∈ pre, isSpace c = true)
    (hne : t ≠ []) (hfirst : ∀ c ∈ t.head?, isSpace c = false) :
    (pre ++ (t ++ post)).dropWhile isSpace = t ++ post := by
  rw [List.dropWhile_append_of_pos hpre]
  cases t with
  | nil => exact absurd rfl hne
  | cons c t => simp [hfirst c rfl]

theorem trim_eq {pre post : List Char} (hpre : ∀ c ∈ pre, isSpace c = true)
    (hpost : ∀ c ∈ post, isSpace c = true) (hne : t ≠ [])
    (hfirst : ∀ c ∈ t.head?, isSpace c = false) (hlast : ∀ c ∈ t.getLast?, isSpace c = false) :
    trim (pre ++ (t ++ post)) = t := by
  have hback : (post.reverse ++ (t.reverse ++ [])).dropWhile isSpace = t.reverse ++ [] :=
    dropWhile_isSpace (by simpa using hpost) (by simpa using hne) (by simpa using hlast)
  rw [List.append_nil] at hback
  rw [trim, dropWhile_isSpace hpre hne hfirst, List.reverse_append, hback, List.reverse_reverse]

/-! ## Declarations and blocks -/

/-- A name and a value that can stand in a declaration. -/
structure Declarable (d : String × String) : Prop where
  ne : d.1.toList ≠ []
  name : ∀ c ∈ d.1.toList, isInert c = true ∧ isStop c = false ∧ isSpace c = false ∧ c ≠ ':'
  value : ∀ c ∈ d.2.toList, isStop c = false

/-- What stands before a value on its line, and the line's beginning. -/
def lead (name : String) : List Char := ['\n', ' ', ' '] ++ (name.toList ++ [':', ' '])

/-- A block from the line end after its brace on. -/
def blockText (ds : List (String × String)) (rest : List Char) : List Char :=
  '\n' :: (ds.flatMap fun d => (writeDeclaration d).toList) ++ '\x7d' :: rest

theorem blockText_cons (d : String × String) (ds : List (String × String)) (rest : List Char) :
    blockText (d :: ds) rest = lead d.1 ++ d.2.toList ++ ';' :: blockText ds rest := by
  simp [blockText, lead, writeDeclaration]

theorem toList_css_append (r : StyleRule) (rest : List Char) :
    r.css.toList ++ rest =
      r.selector.toList ++ [' '] ++ '\x7b' :: blockText r.declarations ('\n' :: rest) := by
  simp [StyleRule.css, blockText, List.flatMap_map]

variable {d : String × String} {ds : List (String × String)}

theorem Declarable.lead_inert (h : Declarable d) :
    ∀ c ∈ lead d.1, isInert c = true ∧ isStop c = false := by
  intro c hc
  simp only [lead, List.mem_append, List.mem_cons, List.not_mem_nil, or_false] at hc
  rcases hc with (rfl | rfl | rfl) | hc | rfl | rfl
  case inr.inl => exact ⟨(h.name c hc).1, (h.name c hc).2.1⟩
  all_goals exact ⟨rfl, rfl⟩

/-- Before a value nothing is open. -/
theorem Declarable.after_lead (h : Declarable d) (cs : List Char) :
    ({} : Point).after (lead d.1 ++ cs) = ({} : Point).after cs := by
  rw [Point.after_append, Point.after_of_inert fun c hc => (h.lead_inert c hc).1]

theorem Declarable.no_stop (h : Declarable d) : ∀ c ∈ lead d.1 ++ d.2.toList, isStop c = false := by
  intro c hc
  rcases List.mem_append.1 hc with hc | hc
  · exact (h.lead_inert c hc).2
  · exact h.value c hc

theorem Declarable.declaration?_eq (h : Declarable d) (value : List Char) :
    declaration? (lead d.1 ++ value) = some (d.1, String.ofList value) := by
  have hname : ∀ c ∈ ['\n', ' ', ' '] ++ d.1.toList, (c != ':') = true := by
    intro c hc
    rcases List.mem_append.1 hc with hc | hc
    · exact List.all_eq_true.1 (by decide : ['\n', ' ', ' '].all (· != ':') = true) c hc
    · simpa using (h.name c hc).2.2.2
  have htrim : trim (['\n', ' ', ' '] ++ (d.1.toList ++ [])) = d.1.toList :=
    trim_eq (List.all_eq_true.1 rfl) (by simp) h.ne
      (fun c hc => (h.name c (List.mem_of_mem_head? hc)).2.2.1)
      (fun c hc => (h.name c (List.mem_of_mem_getLast? hc)).2.2.1)
  have htext : lead d.1 ++ value = (['\n', ' ', ' '] ++ d.1.toList) ++ ':' :: ' ' :: value := by
    simp [lead]
  rw [List.append_nil] at htrim
  rw [htext, declaration?, List.dropWhile_append_of_pos hname, List.takeWhile_append_of_pos hname]
  simp only [List.dropWhile_cons, List.takeWhile_cons, bne_self_eq_false, Bool.false_eq_true,
    if_false, List.append_nil, htrim, String.ofList_toList]

/-- **One declaration.** Its value is read as it is written if it is contained. -/
theorem rulesFrom_declaration (r : StyleRule) (h : Declarable d) (hd : Contained d.2)
    (rest : List Char) :
    rulesFrom (some r) (lead d.1 ++ d.2.toList ++ ';' :: rest) =
      rulesFrom (some { r with declarations := r.declarations ++ [d] }) rest := by
  have hp : (({} : Point).after (lead d.1 ++ d.2.toList)).isFree = true := by
    rw [h.after_lead]
    exact hd
  rw [rulesFrom_semicolon r h.no_stop hp, declare, h.declaration?_eq, String.ofList_toList]
  rfl

/-- A value that is not contained is read with the semicolon after it. -/
theorem head?_rulesFrom_of_not_contained (r : StyleRule) (h : Declarable d) (hd : ¬ Contained d.2)
    (rest : List Char) :
    ∃ value ds, value ≠ d.2 ∧ (rulesFrom (some r) (lead d.1 ++ d.2.toList ++ ';' :: rest)).head? =
      some ⟨r.selector, r.declarations ++ (d.1, value) :: ds⟩ := by
  have hp : (({} : Point).after (lead d.1 ++ d.2.toList)).isFree = false := by
    rw [h.after_lead]
    simpa [Contained] using hd
  obtain ⟨more, hparts⟩ := parts_append_taken h.no_stop hp ';' rest
  obtain ⟨t', ds, hhead⟩ := head?_rulesOf r (lead d.1 ++ d.2.toList ++ ';' :: more)
    (parts ((({} : Point).after (lead d.1 ++ d.2.toList)).step ';') rest).2
  refine ⟨String.ofList (d.2.toList ++ ';' :: more ++ t'), ds, ?_, ?_⟩
  · intro hvalue
    have hlength := congrArg (fun s : String => s.toList.length) hvalue
    simp at hlength
  · rw [rulesFrom, hparts, hhead, declare]
    have htext : lead d.1 ++ d.2.toList ++ ';' :: more ++ t' =
        lead d.1 ++ (d.2.toList ++ ';' :: more ++ t') := by simp
    rw [htext, h.declaration?_eq]
    simp

/-- **A block.** It is read as it is written if all its values are contained. -/
theorem rulesFrom_block (hds : ∀ d ∈ ds, Declarable d) (contained : ∀ d ∈ ds, Contained d.2)
    (r : StyleRule) (rest : List Char) :
    rulesFrom (some r) (blockText ds rest) =
      { r with declarations := r.declarations ++ ds } :: rulesFrom none rest := by
  induction ds generalizing r with
  | nil =>
    have hclose := rulesFrom_close r (t := ['\n']) (by simp; rfl) rfl rest
    have hdeclare : declare r ['\n'] = { r with declarations := r.declarations ++ [] } := rfl
    rw [hdeclare] at hclose
    exact hclose
  | cons d ds ih =>
    have hfirst := rulesFrom_declaration r (hds d List.mem_cons_self)
      (contained d List.mem_cons_self) (blockText ds rest)
    have hrest := ih (fun d hd => hds d (List.mem_cons_of_mem _ hd))
      (fun d hd => contained d (List.mem_cons_of_mem _ hd))
      { r with declarations := r.declarations ++ [d] }
    rw [blockText_cons, hfirst, hrest]
    simp

theorem contained_of_head? (hds : ∀ d ∈ ds, Declarable d) (r : StyleRule) (rest : List Char)
    (hread : (rulesFrom (some r) (blockText ds rest)).head? =
      some { r with declarations := r.declarations ++ ds }) :
    ∀ d ∈ ds, Contained d.2 := by
  induction ds generalizing r with
  | nil => simp
  | cons d ds ih =>
    have hd := hds d List.mem_cons_self
    rw [blockText_cons] at hread
    by_cases contained : Contained d.2
    · rw [rulesFrom_declaration r hd contained] at hread
      have hrest := ih (fun d hd => hds d (List.mem_cons_of_mem _ hd))
        { r with declarations := r.declarations ++ [d] } (by simpa using hread)
      intro d' hd'
      rcases List.mem_cons.1 hd' with rfl | hd'
      · exact contained
      · exact hrest d' hd'
    · obtain ⟨value, ds', hvalue, hhead⟩ :=
        head?_rulesFrom_of_not_contained r hd contained (blockText ds rest)
      rw [hhead] at hread
      simp only [Option.some.injEq, StyleRule.mk.injEq, true_and, List.append_cancel_left_eq,
        List.cons.injEq] at hread
      exact absurd (congrArg Prod.snd hread.1) hvalue

/-! ## Whole stylesheets -/

/-- A selector that is read as it is written. -/
structure Readable (selector : String) : Prop where
  ne : selector.toList ≠ []
  no_stop : ∀ c ∈ selector.toList, isStop c = false
  free : (({} : Point).after selector.toList).isFree = true
  first : ∀ c ∈ selector.toList.head?, isSpace c = false
  last : ∀ c ∈ selector.toList.getLast?, isSpace c = false

theorem Readable.rulesFrom_eq {selector : String} (h : Readable selector) {pre : List Char}
    (hpre : ∀ c ∈ pre, isSpace c = true) (rest : List Char) :
    rulesFrom none (pre ++ (selector.toList ++ [' '] ++ '\x7b' :: rest)) =
      rulesFrom (some ⟨selector, []⟩) rest := by
  have hstop : ∀ c ∈ pre ++ (selector.toList ++ [' ']), isStop c = false := by
    intro c hc
    simp only [List.mem_append, List.mem_singleton] at hc
    rcases hc with hc | hc | rfl
    · exact isStop_of_isSpace (hpre c hc)
    · exact h.no_stop c hc
    · rfl
  have hfree : (({} : Point).after (pre ++ (selector.toList ++ [' ']))).isFree = true := by
    rw [Point.after_append, Point.after_of_inert fun c hc => isInert_of_isSpace (hpre c hc),
      Point.after_concat, Point.step_of_isFree h.free rfl]
    rfl
  have htext : pre ++ (selector.toList ++ [' '] ++ '\x7b' :: rest) =
      pre ++ (selector.toList ++ [' ']) ++ '\x7b' :: rest := by simp
  rw [htext, rulesFrom_open hstop hfree,
    trim_eq hpre (by simp; rfl) h.ne h.first h.last, String.ofList_toList]

/-- Rules that are written one after the other, after a line end or at the beginning. -/
theorem rulesFrom_css_iff {rules : List StyleRule} (selectors : ∀ r ∈ rules, Readable r.selector)
    (declarations : ∀ r ∈ rules, ∀ d ∈ r.declarations, Declarable d) {pre : List Char}
    (hpre : ∀ c ∈ pre, isSpace c = true) :
    rulesFrom none (pre ++ rules.flatMap fun r => r.css.toList) = rules ↔
      ∀ r ∈ rules, ∀ d ∈ r.declarations, Contained d.2 := by
  induction rules generalizing pre with
  | nil =>
    have hnone := rulesFrom_of_no_stop fun c hc => isStop_of_isSpace (hpre c hc)
    simp [hnone]
  | cons r rules ih =>
    have hselector := selectors r List.mem_cons_self
    have hds := declarations r List.mem_cons_self
    have hrest : rulesFrom none ('\n' :: rules.flatMap fun r => r.css.toList) = rules ↔
        ∀ r ∈ rules, ∀ d ∈ r.declarations, Contained d.2 :=
      ih (fun r hr => selectors r (List.mem_cons_of_mem _ hr))
        (fun r hr => declarations r (List.mem_cons_of_mem _ hr))
        (List.all_eq_true.1 rfl : ∀ c ∈ ['\n'], isSpace c = true)
    rw [List.flatMap_cons, toList_css_append, hselector.rulesFrom_eq hpre, List.forall_mem_cons]
    by_cases contained : ∀ d ∈ r.declarations, Contained d.2
    · rw [rulesFrom_block hds contained]
      refine ⟨fun hread => ⟨contained, hrest.1 (List.cons.inj hread).2⟩, fun h => ?_⟩
      rw [hrest.2 h.2]
      rfl
    · refine iff_of_false (fun hread => contained ?_) fun h => contained h.1
      refine contained_of_head? hds ⟨r.selector, []⟩
        ('\n' :: rules.flatMap fun r => r.css.toList) ?_
      rw [hread]
      rfl

/-- **What is read back.** -/
theorem readRules_css_iff (e : StyleElement) (selectors : ∀ r ∈ e.rules, Readable r.selector)
    (declarations : ∀ r ∈ e.rules, ∀ d ∈ r.declarations, Declarable d) :
    readRules e.css = e.rules ↔ ∀ r ∈ e.rules, ∀ d ∈ r.declarations, Contained d.2 := by
  have hcss : e.css.toList = [] ++ e.rules.flatMap fun r => r.css.toList := by
    simp [StyleElement.css, String.toList_join, List.flatMap_map]
  rw [readRules, hcss]
  exact rulesFrom_css_iff selectors declarations (by simp)

end ThemedPages.Css
