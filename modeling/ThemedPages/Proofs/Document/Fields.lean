import ThemedPages.Document.Record
import ThemedPages.Proofs.Tables
import ThemedPages.Proofs.Time.Instants

/-!
# Written fields are read again

A record that is written has some of its known fields, in order and each once, so `fields?` gives
them all back. A field that is looked up among them is found as it was written, and a field that was
left out is not found.

**Theorem (`required_eq`, `optional_eq`, `withDefault_eq`).** A field whose value is read again is
read from the record, whether it has to be there, may be absent or has a default.

An optional field must not be written as null, which would be read as an absent one; so `Decodes`
says of a written value that it is read again and that it is not null.
-/

namespace ThemedPages.Record

variable {α : Type} {names : List String} {fields : List (String × Value)} {name : String}
  {decode : Value → Option α} {encode : α → Value} {v : Value} {x : α}

/-- A value that is read as `x` and is not null. -/
structure Decodes (decode : Value → Option α) (v : Value) (x : α) : Prop where
  decode_eq : decode v = some x
  ne_null : v ≠ .null

/-! ## Written records -/

/-- Fields that have some of the given names, in order and each once. -/
def Written (fields : List (String × Value)) (names : List String) : Prop :=
  (fields.map Prod.fst).Sublist names

theorem written_self (fields : List (String × Value)) : Written fields (fields.map Prod.fst) :=
  List.Sublist.refl _

theorem written_given? (name : String) (encode : α → Value) (x : Option α) :
    Written (given? name encode x) [name] := by
  cases x with
  | none => exact List.nil_sublist _
  | some x => exact List.Sublist.refl _

theorem written_nonEmpty (name : String) (encode : α → Value) (xs : List α) :
    Written (nonEmpty name encode xs) [name] := by
  cases xs with
  | nil => exact List.nil_sublist _
  | cons x xs => exact List.Sublist.refl _

theorem Written.append {more : List (String × Value)} {names' : List String}
    (h : Written fields names) (h' : Written more names') :
    Written (fields ++ more) (names ++ names') := by
  unfold Written
  rw [List.map_append]
  exact List.Sublist.append h h'

theorem Written.fields?_eq (h : Written fields names) (hnames : names.Nodup) :
    fields? names (.obj fields) = some fields := by
  have hknown : fields.filter (fun f => names.contains f.1) = fields := by
    refine List.filter_eq_self.2 fun f hf => ?_
    exact List.contains_iff_mem.2 (h.subset (List.mem_map_of_mem hf))
  simp only [fields?, hknown, hnames.sublist h, if_true]

@[simp] theorem lookup_given? (name key : String) (encode : α → Value) (x : Option α) :
    (given? name encode x).lookup key = if key == name then x.map encode else none := by
  cases x with
  | none => simp [given?]
  | some x => cases h : key == name <;> simp [given?, List.lookup_cons, h]

@[simp] theorem lookup_nonEmpty (name key : String) (encode : α → Value) (xs : List α) :
    (nonEmpty name encode xs).lookup key =
      if key == name && !xs.isEmpty then some (.arr (xs.map encode)) else none := by
  cases xs with
  | nil => simp [nonEmpty]
  | cons x xs => cases h : key == name <;> simp [nonEmpty, List.lookup_cons, h]

theorem forall_mem_given? {p : String × Value → Prop} {x : Option α}
    (h : ∀ y, x = some y → p (name, encode y)) : ∀ f ∈ given? name encode x, p f := by
  cases x with
  | none => simp [given?]
  | some y => simpa [given?] using h y rfl

theorem forall_mem_nonEmpty {p : String × Value → Prop} {xs : List α}
    (h : p (name, .arr (xs.map encode))) : ∀ f ∈ nonEmpty name encode xs, p f := by
  cases xs with
  | nil => simp [nonEmpty]
  | cons x xs => simpa [nonEmpty] using h

/-! ## Fields of a record -/

theorem required_eq (hlookup : fields.lookup name = some v) (h : Decodes decode v x) :
    required fields name decode = some x := by
  rw [required, hlookup, Option.bind_some, h.decode_eq]

theorem withDefault_eq {default : α} (hlookup : fields.lookup name = some v)
    (h : Decodes decode v x) : withDefault fields name decode default = some x := by
  simp only [withDefault, hlookup, h.decode_eq]

theorem optional_eq {x : Option α} (hlookup : fields.lookup name = x.map encode)
    (h : ∀ y, x = some y → Decodes decode (encode y) y) :
    optional fields name decode = some x := by
  cases x with
  | none => simp only [optional, hlookup, Option.map_none]
  | some y =>
    obtain ⟨hdecode, hnull⟩ := h y rfl
    rw [Option.map_some] at hlookup
    unfold optional
    rw [hlookup]
    split
    · rename_i heq
      cases heq
    · rename_i heq
      exact absurd (Option.some.inj heq) hnull
    · rename_i heq
      cases heq
      rw [hdecode, Option.map_some]

/-! ## Values that are read again -/

theorem decodes_text (s : String) : Decodes text (.str s) s := ⟨rfl, nofun⟩

theorem decodes_flag (b : Bool) : Decodes flag (.bool b) b := ⟨rfl, nofun⟩

theorem decodes_word32 (n : UInt32) : Decodes word32 (.ofNat n.toNat) n where
  decode_eq := by
    have hinteger : integer (.ofNat n.toNat) = some (n.toNat : Int) := rfl
    have hrange : (decide ((0 : Int) ≤ n.toNat) && decide ((n.toNat : Int) < UInt32.size)) =
        true := by
      rw [decide_eq_true (Int.natCast_nonneg _), decide_eq_true (Int.ofNat_lt.2 n.toNat_lt_size)]
      rfl
    rw [word32, hinteger, Option.bind_eq_bind, Option.bind_some, if_pos hrange, Int.toNat_natCast,
      UInt32.ofNat_toNat]
  ne_null := nofun

theorem decodes_word64 (n : UInt64) : Decodes word64 (.ofNat n.toNat) n where
  decode_eq := by
    have hinteger : integer (.ofNat n.toNat) = some (n.toNat : Int) := rfl
    have hrange : (decide ((0 : Int) ≤ n.toNat) && decide ((n.toNat : Int) < UInt64.size)) =
        true := by
      rw [decide_eq_true (Int.natCast_nonneg _), decide_eq_true (Int.ofNat_lt.2 n.toNat_lt_size)]
      rfl
    rw [word64, hinteger, Option.bind_eq_bind, Option.bind_some, if_pos hrange, Int.toNat_natCast,
      UInt64.ofNat_toNat]
  ne_null := nofun

theorem decodes_int64 (i : Int64) : Decodes int64 (.ofInt i.toInt) i where
  decode_eq := by
    have hinteger : integer (.ofInt i.toInt) = some i.toInt := rfl
    have hrange : (decide (Int64.minValue.toInt ≤ i.toInt) &&
        decide (i.toInt ≤ Int64.maxValue.toInt)) = true := by
      rw [decide_eq_true i.minValue_le_toInt, decide_eq_true i.toInt_le]
      rfl
    rw [int64, hinteger, Option.bind_eq_bind, Option.bind_some, if_pos hrange, Int64.ofInt_toInt]
  ne_null := nofun

theorem decodes_instant {t : Instant} (h : t.IsValid) : Decodes instant (.str t.toText) t where
  decode_eq := by rw [instant, Value.text?, Option.bind_some, Instant.ofText?_toText h]
  ne_null := nofun

theorem decodes_object (t : Table Value) : Decodes object (.ofTable t) t where
  decode_eq := by simp [object, Value.ofTable]
  ne_null := nofun

theorem mapM_map_encode {β : Type} {decode : β → Option α} {encode : α → β} {xs : List α}
    (h : ∀ x ∈ xs, decode (encode x) = some x) : (xs.map encode).mapM decode = some xs := by
  induction xs with
  | nil => rfl
  | cons x xs ih =>
    rw [List.map_cons, List.mapM_cons, h x List.mem_cons_self,
      ih fun y hy => h y (List.mem_cons_of_mem x hy)]
    rfl

theorem decodes_list {xs : List α} (h : ∀ x ∈ xs, Decodes decode (encode x) x) :
    Decodes (list decode) (.arr (xs.map encode)) xs where
  decode_eq := mapM_map_encode fun x hx => (h x hx).decode_eq
  ne_null := nofun

/-- A list that was left out is read as the empty one. -/
theorem nonEmpty_eq {xs : List α} (hlookup : fields.lookup name =
      if xs.isEmpty then none else some (.arr (xs.map encode)))
    (h : ∀ x ∈ xs, Decodes decode (encode x) x) :
    withDefault fields name (list decode) [] = some xs := by
  cases xs with
  | nil => simp only [withDefault, hlookup, List.isEmpty_nil, if_true]
  | cons x xs => exact withDefault_eq hlookup (decodes_list h)

end ThemedPages.Record
