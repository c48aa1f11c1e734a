import ThemedPages.Proofs.Decimal.Digits
import ThemedPages.Proofs.Tables
import ThemedPages.Yaml.Reader
import ThemedPages.Yaml.Writer

/-!
# Guided reading

A reader that knows what to expect at a place reads it differently from one that takes it as it
stands: a text stands for itself whatever it looks like, an absent value may be an empty one, and
free-form objects are put in key order. In a document that was written from a value, both find that
value.

**Theorem (`ReadsBack.read?_eq`).** If the text of a value reads back as it stands, it reads back
with every shape that is made for the value.

That a text reads back is said of its nodes too, and not only of its value: where an integer from
zero up is expected, a zero with a minus sign is refused, but as it stands it is the same zero.
-/

namespace ThemedPages

/-! ## Free-form data -/

/-- A value of free-form data: every object in it has each key once, in ascending order. -/
inductive Value.Canonical : Value → Prop
  | null : Canonical .null
  | bool (b : Bool) : Canonical (.bool b)
  | num (n : Number) : Canonical (.num n)
  | str (s : String) : Canonical (.str s)
  | arr (items : List Value) (h : ∀ v ∈ items, v.Canonical) : Canonical (.arr items)
  | ofTable (t : Table Value) (h : ∀ r ∈ t.entries, r.2.Canonical) : Canonical (.ofTable t)

namespace Yaml

/-! ## Written nodes -/

mutual

/-- Equality of nodes is decided by walking both. -/
def decEqNode : (a b : Node) → Decidable (a = b)
  | .alias a, .alias b =>
    if h : a = b then isTrue (h ▸ rfl) else isFalse fun e => h (by cases e; rfl)
  | .scalar a s k, .scalar b t l =>
    if h : (a, s, k) = (b, t, l) then isTrue (by cases h; rfl)
    else isFalse fun e => h (by cases e; rfl)
  | .sequence a xs, .sequence b ys =>
    match decEq a b, decEqNodes xs ys with
    | isTrue h, isTrue h' => isTrue (h ▸ h' ▸ rfl)
    | isFalse h, _ => isFalse fun e => h (by cases e; rfl)
    | _, isFalse h => isFalse fun e => h (by cases e; rfl)
  | .mapping a xs, .mapping b ys =>
    match decEq a b, decEqNodes xs ys with
    | isTrue h, isTrue h' => isTrue (h ▸ h' ▸ rfl)
    | isFalse h, _ => isFalse fun e => h (by cases e; rfl)
    | _, isFalse h => isFalse fun e => h (by cases e; rfl)
  | .alias _, .scalar .. | .alias _, .sequence .. | .alias _, .mapping ..
  | .scalar .., .alias _ | .scalar .., .sequence .. | .scalar .., .mapping ..
  | .sequence .., .alias _ | .sequence .., .scalar .. | .sequence .., .mapping ..
  | .mapping .., .alias _ | .mapping .., .scalar .. | .mapping .., .sequence .. =>
    isFalse fun e => by cases e

/-- Equality of lists of nodes. -/
def decEqNodes : (a b : List Node) → Decidable (a = b)
  | [], [] => isTrue rfl
  | [], _ :: _ | _ :: _, [] => isFalse fun e => by cases e
  | a :: as, b :: bs =>
    match decEqNode a b, decEqNodes as bs with
    | isTrue h, isTrue h' => isTrue (h ▸ h' ▸ rfl)
    | isFalse h, _ => isFalse fun e => h (by cases e; rfl)
    | _, isFalse h => isFalse fun e => h (by cases e; rfl)

end

instance : DecidableEq Node := decEqNode

deriving instance DecidableEq for Graph

mutual

/-- The node that a value is written as. -/
def nodeOf : Value → Node
  | .null => .scalar none "null" .plain
  | .bool b => .scalar none (if b then "true" else "false") .plain
  | .num n => .scalar none (writeNumber n) .plain
  | .str s => .scalar none s (styleOf s)
  | .arr items => .sequence none (nodesOf items)
  | .obj fields => .mapping none (sidesOf fields)

/-- The nodes that the items of a list are written as. -/
def nodesOf : List Value → List Node
  | [] => []
  | x :: rest => nodeOf x :: nodesOf rest

/-- The nodes that the fields of an object are written as. -/
def sidesOf : List (String × Value) → List Node
  | [] => []
  | (k, x) :: rest => .scalar none k (styleOf k) :: nodeOf x :: sidesOf rest

end

/-- The only document of a text. -/
def document? (s : String) : Option Graph := do
  let events ← events? (← tokens? s)
  Graph.ofEvents? events

/-- The text of a value is read as the nodes that the value was written as, and these as the
value. -/
structure ReadsBack (v : Value) : Prop where
  nodes : ∃ size, document? (write v) = some ⟨nodeOf v, [], size⟩
  value : read? .whole (write v) = some v

/-! ## Numbers -/

theorem hexValue?_of_isDigit {c : Char} (h : c.isDigit = true) :
    hexValue? c = some (c.toNat - '0'.toNat) ∧ c.toNat - '0'.toNat < 10 := by
  have hbounds : 48 ≤ c.toNat ∧ c.toNat ≤ 57 := Char.isDigit_iff_toNat.1 h
  have hdigit : ('0' ≤ c && c ≤ '9') = true := by
    rw [Bool.and_eq_true, decide_eq_true_iff, decide_eq_true_iff]
    exact hbounds
  refine ⟨by rw [hexValue?, if_pos hdigit], ?_⟩
  show c.toNat - 48 < 10
  omega

theorem foldlM_hexValue? {cs : List Char} (h : ∀ c ∈ cs, c.isDigit = true) (n : Nat) :
    (cs.foldlM (fun n c => do
      let d ← hexValue? c
      if d < 10 then some (10 * n + d) else none) n) = some (Nat.ofDigitChars 10 cs n) := by
  induction cs generalizing n with
  | nil => rfl
  | cons c cs ih =>
    obtain ⟨hvalue, hlt⟩ := hexValue?_of_isDigit (h c List.mem_cons_self)
    have hrest := ih fun d hd => h d (List.mem_cons_of_mem c hd)
    simp only [List.foldlM_cons, hvalue, Option.bind_eq_bind, Option.bind_some, if_pos hlt,
      Nat.ofDigitChars_cons]
    exact hrest _

theorem digits?_eq {cs : List Char} (hne : cs ≠ []) (h : ∀ c ∈ cs, c.isDigit = true) :
    digits? 10 cs = some (Nat.ofDigitChars 10 cs 0) := by
  rw [digits?, if_neg (by simpa using hne)]
  exact foldlM_hexValue? h 0

theorem magnitude?_toDigits (n : Nat) : magnitude? (Nat.toDigits 10 n) = some n := by
  have hdigits : digits? 10 (Nat.toDigits 10 n) = some n := by
    rw [digits?_eq Nat.toDigits_ne_nil fun c hc =>
      Nat.isDigit_of_mem_toDigits (by decide) (by decide) hc]
    exact congrArg some (Nat.ofDigitChars_toDigits (by decide) (by decide))
  by_cases hn : n = 0
  · subst hn
    rfl
  · have hhead := Decimal.head?_toDigits (Nat.pos_of_ne_zero hn)
    obtain ⟨c, cs, hcons, -⟩ := Decimal.toDigits_eq_cons n
    rw [hcons] at hhead hdigits ⊢
    have hzero : c ≠ '0' := fun h => hhead (congrArg some h)
    simp only [magnitude?]
    split
    all_goals first
      | exact hdigits
      | exact absurd (List.cons.inj ‹_›).1 hzero

theorem integer?_writeInt (i : Int) :
    integer? (Decimal.writeInt i) = some (decide (i < 0), i.natAbs) := by
  have hmagnitude := magnitude?_toDigits i.natAbs
  unfold integer?
  by_cases hi : i < 0
  · simp [Decimal.writeInt, hi, hmagnitude]
  · obtain ⟨c, cs, hcons, hc⟩ := Decimal.toDigits_eq_cons i.natAbs
    simp only [Decimal.writeInt, hi, if_false, List.nil_append, String.toList_ofList]
    rw [hcons] at hmagnitude ⊢
    split
    · rename_i heq
      rw [(List.cons.inj heq).1] at hc
      cases hc
    · rename_i heq
      rw [(List.cons.inj heq).1] at hc
      cases hc
    · simp [hmagnitude]

theorem natural64?_writeInt {n : Nat} (h : n < UInt64.size) :
    natural64? (Decimal.writeInt n) = some n := by
  have hsign : decide ((n : Int) < 0) = false := decide_eq_false (by omega)
  simp only [natural64?, integer?_writeInt, hsign, Int.natAbs_natCast, if_pos h]

theorem integer64?_writeInt (i : Int64) :
    integer64? (Decimal.writeInt i.toInt) = some i.toInt := by
  have hleast : -2 ^ 63 ≤ i.toInt := i.le_toInt
  have hmost : i.toInt < 2 ^ 63 := i.toInt_lt
  have hpow : Nat.pow 2 63 = 9223372036854775808 := rfl
  simp only [integer64?, integer?_writeInt, hpow]
  by_cases hi : i.toInt < 0
  · simp only [hi, decide_true]
    rw [if_pos (by omega)]
    exact congrArg some (by omega)
  · simp only [hi, decide_false]
    rw [if_pos (by omega)]
    exact congrArg some (by omega)

/-! ## Steps of the reader -/

variable {α β : Type} {g : Graph} {shape inner : Shape} {depth m m' : Nat} {v : Value}

theorem run_bind_eq_some {x : StateT Nat Option α} {f : α → StateT Nat Option β} {r : β × Nat} :
    (x >>= f) m = some r ↔ ∃ a m₁, x m = some (a, m₁) ∧ f a m₁ = some r := by
  constructor
  · intro h
    obtain ⟨⟨a, m₁⟩, hx, hf⟩ := Option.bind_eq_some_iff.1 h
    exact ⟨a, m₁, hx, hf⟩
  · rintro ⟨a, m₁, hx, hf⟩
    exact Option.bind_eq_some_iff.2 ⟨(a, m₁), hx, hf⟩

/-- What is read of the items of a list, where lists and objects may be nested `depth` deep. -/
def items? (g : Graph) : (depth : Nat) → Shape → List Node → StateT Nat Option (List Value)
  | 0, _, _ => failure
  | depth + 1, shape, items => Graph.listItems (g.value? depth) shape 0 items

/-- What is read of the sides of an object, where lists and objects may be nested `depth` deep. -/
def sides? (g : Graph) :
    (depth : Nat) → Shape → List Node → StateT Nat Option (List (String × Value))
  | 0, _, _ => failure
  | depth + 1, shape, sides => g.mapFields (g.value? depth) shape sides

/-- What is read of a node that is no alias. -/
def inside? (g : Graph) (depth : Nat) : Shape → Node → StateT Nat Option Value :=
  nodeValue? (items? g depth) (sides? g depth)

theorem follow_nodeOf (g : Graph) (v : Value) : g.follow (nodeOf v) = pure (nodeOf v) := by
  cases v <;> rfl

theorem value?_nodeOf (h : shape ≠ .skip) (g : Graph) (depth : Nat) (v : Value) :
    g.value? depth shape (nodeOf v) = inside? g depth shape (nodeOf v) := by
  cases depth with
  | zero =>
    simp only [Graph.value?, follow_nodeOf, pure_bind]
    rfl
  | succ depth =>
    simp only [Graph.value?, follow_nodeOf, pure_bind]
    rfl

/-! ## Shapes made for values -/

/-- A shape other than `skip` with which a written value is read as it is as it stands. -/
structure Guided (shape : Shape) (v : Value) : Prop where
  reads : shape ≠ .skip
  agrees : ∀ g depth m m', inside? g depth .whole (nodeOf v) m = some (v, m') →
    inside? g depth shape (nodeOf v) m = some (v, m')

theorem Guided.value?_eq (h : Guided shape v)
    (hwhole : g.value? depth .whole (nodeOf v) m = some (v, m')) :
    g.value? depth shape (nodeOf v) m = some (v, m') := by
  rw [value?_nodeOf (by nofun)] at hwhole
  rw [value?_nodeOf h.reads]
  exact h.agrees g depth m m' hwhole

theorem read?_of_document {s : String} (h : document? s = some g) (shape : Shape) :
    read? shape s = (g.value? 128 shape g.root).run' 0 := by
  obtain ⟨ts, htokens, h⟩ := Option.bind_eq_some_iff.1 h
  obtain ⟨events, hevents, hgraph⟩ := Option.bind_eq_some_iff.1 h
  have hsome : events.isEmpty = false := by
    cases events with
    | nil => cases hgraph
    | cons e rest => rfl
  simp only [read?, htokens, hevents, hsome, hgraph, Option.bind_eq_bind, Option.bind_some]
  rfl

/-- **Guided reading.** -/
theorem ReadsBack.read?_eq (h : ReadsBack v) (hguided : Guided shape v) :
    read? shape (write v) = some v := by
  obtain ⟨size, hdocument⟩ := h.nodes
  have hvalue := h.value
  rw [read?_of_document hdocument] at hvalue ⊢
  obtain ⟨⟨v', m'⟩, hwhole, heq⟩ := Option.map_eq_some_iff.1 hvalue
  cases heq
  exact Option.map_eq_some_iff.2 ⟨(v', m'), hguided.value?_eq hwhole, rfl⟩

/-! ## Scalars -/

theorem lift_eq_some {x : Option α} {a : α} :
    (liftM x : StateT Nat Option α) m = some (a, m') ↔ x = some a ∧ m' = m := by
  constructor
  · intro h
    obtain ⟨b, hb, heq⟩ := Option.bind_eq_some_iff.1 h
    cases heq
    exact ⟨hb, rfl⟩
  · rintro ⟨rfl, rfl⟩
    rfl

theorem scalarValue?_of_whole {text : String} {style : ScalarStyle}
    (h : inside? g depth .whole (.scalar none text style) m = some (v, m')) :
    scalarValue? none text style = some v ∧ m' = m :=
  lift_eq_some.1 h

/-- A scalar that is not null is not absent. -/
theorem isAbsent?_eq {text : String} {style : ScalarStyle}
    (h : scalarValue? none text style = some v) (hv : v ≠ .null) :
    isAbsent? none text style = some false := by
  by_cases hplain : style = .plain
  · subst hplain
    have hvalue : plainValue? text = some v := h
    have hword : (text.isEmpty || isNull text) = false := by
      rw [← Bool.not_eq_true]
      intro hnull
      rw [plainValue?, if_pos hnull] at hvalue
      exact hv (Option.some.inj hvalue).symm
    exact congrArg some hword
  · rw [isAbsent?, if_pos (by simpa using hplain)]

theorem guided_text (s : String) : Guided .text (.str s) where
  reads := nofun
  agrees g depth m m' hwhole := by
    obtain ⟨-, rfl⟩ := scalarValue?_of_whole hwhole
    rfl

theorem guided_flag (b : Bool) : Guided .flag (.bool b) where
  reads := nofun
  agrees g depth m m' hwhole := by
    obtain ⟨-, rfl⟩ := scalarValue?_of_whole hwhole
    cases b <;> rfl

theorem guided_natural {n : Nat} (h : n < UInt64.size) : Guided .natural (.ofNat n) where
  reads := nofun
  agrees g depth m m' hwhole := by
    obtain ⟨-, rfl⟩ := scalarValue?_of_whole hwhole
    have hvalue : (natural64? (Decimal.writeInt n)).map Value.ofNat = some (.ofNat n) := by
      rw [natural64?_writeInt h, Option.map_some]
    exact lift_eq_some.2 ⟨hvalue, rfl⟩

theorem guided_integer (i : Int64) : Guided .integer (.ofInt i.toInt) where
  reads := nofun
  agrees g depth m m' hwhole := by
    obtain ⟨-, rfl⟩ := scalarValue?_of_whole hwhole
    have hvalue : (integer64? (Decimal.writeInt i.toInt)).map Value.ofInt =
        some (.ofInt i.toInt) := by
      rw [integer64?_writeInt, Option.map_some]
    exact lift_eq_some.2 ⟨hvalue, rfl⟩

theorem inside?_optional_scalar {text : String} {style : ScalarStyle} (hv : v ≠ .null)
    (hwhole : inside? g depth .whole (.scalar none text style) m = some (v, m')) :
    inside? g depth (.optional inner) (.scalar none text style) m =
      inside? g depth inner (.scalar none text style) m := by
  have habsent := isAbsent?_eq (scalarValue?_of_whole hwhole).1 hv
  simp only [inside?, nodeValue?, habsent]
  rfl

theorem guided_optional (h : Guided inner v) (hv : v ≠ .null) : Guided (.optional inner) v where
  reads := nofun
  agrees g depth m m' hwhole := by
    have hinner := h.agrees g depth m m' hwhole
    cases v with
    | null => exact absurd rfl hv
    | arr | obj => exact hinner
    | bool | num | str =>
      rw [nodeOf, inside?_optional_scalar hv hwhole]
      exact hinner

/-! ## Lists and objects -/

theorem listItems_eq (hitem : ∀ i, shape.item i = inner) {xs : List Value}
    (h : ∀ x ∈ xs, Guided inner x) {index j : Nat}
    (hwhole : Graph.listItems (g.value? depth) .whole j (nodesOf xs) m = some (xs, m')) :
    Graph.listItems (g.value? depth) shape index (nodesOf xs) m = some (xs, m') := by
  induction xs generalizing index j m with
  | nil => exact hwhole
  | cons x xs ih =>
    rw [nodesOf, Graph.listItems, run_bind_eq_some] at hwhole ⊢
    obtain ⟨y, m₁, hx, hwhole⟩ := hwhole
    obtain ⟨ys, m₂, hxs, heq⟩ := run_bind_eq_some.1 hwhole
    cases heq
    refine ⟨x, m₁, ?_, ?_⟩
    · rw [hitem]
      exact (h x List.mem_cons_self).value?_eq hx
    · exact run_bind_eq_some.2 ⟨xs, m', ih (fun y hy => h y (List.mem_cons_of_mem x hy)) hxs, rfl⟩

theorem mapFields_eq (hafter : ∀ k, shape.after k = shape) {fs : List (String × Value)}
    (h : ∀ f ∈ fs, Guided (shape.field f.1) f.2)
    (hwhole : g.mapFields (g.value? depth) .whole (sidesOf fs) m = some (fs, m')) :
    g.mapFields (g.value? depth) shape (sidesOf fs) m = some (fs, m') := by
  induction fs generalizing m with
  | nil => exact hwhole
  | cons f fs ih =>
    obtain ⟨k, x⟩ := f
    rw [sidesOf, Graph.mapFields, run_bind_eq_some] at hwhole ⊢
    obtain ⟨key, m₁, hkey, hwhole⟩ := hwhole
    obtain ⟨y, m₂, hx, hwhole⟩ := run_bind_eq_some.1 hwhole
    obtain ⟨ys, m₃, hfs, heq⟩ := run_bind_eq_some.1 hwhole
    cases heq
    refine ⟨k, m₁, hkey, run_bind_eq_some.2 ⟨x, m₂, ?_, run_bind_eq_some.2 ⟨fs, m', ?_, rfl⟩⟩⟩
    · exact (h (k, x) List.mem_cons_self).value?_eq hx
    · rw [hafter]
      exact ih (fun f hf => h f (List.mem_cons_of_mem _ hf)) hfs

theorem items?_eq (hitem : ∀ i, shape.item i = inner) {xs : List Value}
    (h : ∀ x ∈ xs, Guided inner x)
    (hwhole : items? g depth .whole (nodesOf xs) m = some (xs, m')) :
    items? g depth shape (nodesOf xs) m = some (xs, m') := by
  cases depth with
  | zero => cases hwhole
  | succ depth => exact listItems_eq hitem h hwhole

theorem sides?_eq (hafter : ∀ k, shape.after k = shape) {fs : List (String × Value)}
    (h : ∀ f ∈ fs, Guided (shape.field f.1) f.2)
    (hwhole : sides? g depth .whole (sidesOf fs) m = some (fs, m')) :
    sides? g depth shape (sidesOf fs) m = some (fs, m') := by
  cases depth with
  | zero => cases hwhole
  | succ depth => exact mapFields_eq hafter h hwhole

theorem items?_of_whole {xs : List Value}
    (hwhole : inside? g depth .whole (nodeOf (.arr xs)) m = some (.arr xs, m')) :
    items? g depth .whole (nodesOf xs) m = some (xs, m') := by
  obtain ⟨ys, m₁, hitems, heq⟩ := run_bind_eq_some.1 hwhole
  cases heq
  exact hitems

theorem sides?_of_whole {fs : List (String × Value)}
    (hwhole : inside? g depth .whole (nodeOf (.obj fs)) m = some (.obj fs, m')) :
    sides? g depth .whole (sidesOf fs) m = some (fs, m') := by
  obtain ⟨ys, m₁, hsides, heq⟩ := run_bind_eq_some.1 hwhole
  cases heq
  exact hsides

theorem guided_list {xs : List Value} (h : ∀ x ∈ xs, Guided inner x) :
    Guided (.list inner) (.arr xs) where
  reads := nofun
  agrees _ _ _ m' hwhole :=
    run_bind_eq_some.2 ⟨xs, m', items?_eq (fun _ => rfl) h (items?_of_whole hwhole), rfl⟩

theorem guided_record {fields : List (String × Shape)} {fs : List (String × Value)}
    (h : ∀ f ∈ fs, Guided ((fields.lookup f.1).getD .skip) f.2) :
    Guided (.record fields) (.obj fs) where
  reads := nofun
  agrees _ _ _ m' hwhole :=
    run_bind_eq_some.2 ⟨fs, m', sides?_eq (fun _ => rfl) h (sides?_of_whole hwhole), rfl⟩

/-! ## Free-form data -/

theorem object_entries (t : Table Value) : Value.object t.entries = .ofTable t := by
  rw [Value.object, Table.ofList_entries]

theorem guided_any (h : v.Canonical) : Guided .any v := by
  induction h with
  | null | bool | num | str => exact ⟨nofun, fun _ _ _ _ hwhole => hwhole⟩
  | arr items _ ih =>
    refine ⟨nofun, fun _ _ _ m' hwhole => ?_⟩
    exact run_bind_eq_some.2 ⟨items, m', items?_eq (fun _ => rfl) ih (items?_of_whole hwhole), rfl⟩
  | ofTable t _ ih =>
    refine ⟨nofun, fun g depth m m' hwhole => ?_⟩
    have hsides : sides? g depth .any (sidesOf t.entries) m = some (t.entries, m') :=
      sides?_eq (fun _ => rfl) ih (sides?_of_whole hwhole)
    exact run_bind_eq_some.2 ⟨t.entries, m', hsides,
      congrArg (fun v => some (v, m')) (object_entries t)⟩

theorem guided_object {t : Table Value} (h : ∀ r ∈ t.entries, r.2.Canonical) :
    Guided .object (.ofTable t) where
  reads := nofun
  agrees g depth m m' hwhole := by
    have hsides : sides? g depth .object (sidesOf t.entries) m = some (t.entries, m') :=
      sides?_eq (fun _ => rfl) (fun r hr => guided_any (h r hr)) (sides?_of_whole hwhole)
    exact run_bind_eq_some.2 ⟨t.entries, m', hsides,
      congrArg (fun v => some (v, m')) (object_entries t)⟩

end Yaml

end ThemedPages
