import ThemedPages.Json.Reader
import ThemedPages.Json.Writer
import ThemedPages.Proofs.Decimal.Digits

/-!
# Written JSON reads back

A value reads back where a shape is expected if its text, however far indented and whatever comes
after it, reads as that value and leaves what comes after (`ReadsBack`). Texts, booleans, null and
natural numbers of 64 bits read back. Lists and objects do if their parts do one level deeper, so a
reader's 127 levels are counted off along the value. What is expected of a field may depend on the
fields before it (`FieldsReadBack`).

**Theorem (`ReadsBack.read?`).** The whole text of a value that reads back within 127 levels is read
as that value.

The reader has twice as much fuel as there are letters. That is enough since between two letters it
goes at most from a list to its items and from there to a value.
-/

namespace ThemedPages.Json

open Decimal (leadingZero_toDigits toDigits_eq_cons)
open Text

variable {c : Char} {rest : List Letter} {depth n : Nat} {shape inner : Shape}
  {xs : List Value} {fs : List (String × Value)}

/-! ## Blanks and words -/

@[simp] theorem letters_append (a b : String) : letters (a ++ b) = letters a ++ letters b := by
  simp [letters, String.toList_append]

theorem letters_newline (d : Nat) :
    letters (newline d) = some '\n' :: List.replicate (2 * d) (some ' ') := by
  simp [letters, newline]

theorem skipSpace_newline (d : Nat) (rest : List Letter) :
    skipSpace (letters (newline d) ++ rest) = skipSpace rest := by
  have hblanks : ∀ k, skipSpace (List.replicate k (some ' ') ++ rest) = skipSpace rest := by
    intro k
    induction k with
    | zero => rfl
    | succ k ih => exact ih
  rw [letters_newline]
  exact hblanks (2 * d)

theorem skipSpace_cons (h : isSpace c = false) (rest : List Letter) :
    skipSpace (some c :: rest) = some c :: rest := by
  simp [skipSpace, h]

theorem word?_append (w : String) (rest : List Letter) :
    word? w (letters w ++ rest) = some rest := by
  have hlen : (letters w).length = w.length := by
    rw [letters, List.length_map, String.length_toList]
  have hprefix : (letters w).isPrefixOf (letters w ++ rest) = true := by simp
  simp only [word?, hprefix, if_true, ← hlen, List.drop_left]

/-! ## Text -/

/-- The escape of a control character names it. -/
theorem hexNumber?_control : ∀ n < 32,
    hexNumber? ['0', '0', hexDigit (n / 16), hexDigit n] = some n := by decide

theorem quoted?_quoteChar (done : List Char) (c : Char) (rest : List Letter) :
    quoted? false .plain done ((quoteChar c).map some ++ rest) =
      quoted? false .plain (c :: done) rest := by
  unfold quoteChar
  split
  · rfl
  · rfl
  · rfl
  · rfl
  · rfl
  · rfl
  · rfl
  · rename_i hquote hbackslash _ _ _ _ _
    split
    · rename_i hcontrol
      have hunit : quoted? false .plain done (['\\', 'u', '0', '0', hexDigit (c.toNat / 16),
            hexDigit c.toNat].map some ++ rest) =
          quoted? false (.unit ['0', '0', hexDigit (c.toNat / 16)]) done
            (some (hexDigit c.toNat) :: rest) := rfl
      have hlow : c.toNat < 0xD800 := by omega
      rw [hunit, quoted?]
      simp only [List.length_cons, List.length_nil, Nat.lt_irrefl, if_false, List.cons_append,
        List.nil_append, hexNumber?_control c.toNat hcontrol]
      simp [hlow, Char.ofNat_toNat]
    · rename_i hprinted
      show quoted? false .plain done (some c :: rest) = _
      rw [quoted?, if_neg (by simpa using hquote), if_neg (by simpa using hbackslash),
        if_neg hprinted]

theorem quoted?_chars (cs done : List Char) (rest : List Letter) :
    quoted? false .plain done ((cs.flatMap quoteChar).map some ++ some '"' :: rest) =
      some (done.reverse ++ cs, rest) := by
  induction cs generalizing done with
  | nil => simp [quoted?]
  | cons c cs ih =>
    rw [List.flatMap_cons, List.map_append, List.append_assoc, quoted?_quoteChar, ih]
    simp

theorem letters_quote (s : String) :
    letters (quote s) = some '"' :: ((s.toList.flatMap quoteChar).map some ++ [some '"']) := by
  simp [letters, quote]

theorem quoted?_quote (s : String) (rest : List Letter) :
    quoted? false .plain [] ((s.toList.flatMap quoteChar).map some ++ some '"' :: rest) =
      some (s.toList, rest) := by
  simpa using quoted?_chars s.toList [] rest

/-! ## Numbers -/

/-- What follows a value: nothing, a comma, or a line break. -/
def Delimited (rest : List Letter) : Prop :=
  rest = [] ∨ ∃ after, rest = some ',' :: after ∨ rest = some '\n' :: after

theorem Delimited.not_digit (hrest : Delimited rest) :
    ∀ c, rest.head? = some (some c) → c.isDigit = false := by
  intro c hc
  rcases hrest with rfl | ⟨after, rfl | rfl⟩
  · cases hc
  · cases hc
    rfl
  · cases hc
    rfl

theorem digits_append {ds : List Char} (hds : ∀ c ∈ ds, c.isDigit = true)
    (hrest : ∀ c, rest.head? = some (some c) → c.isDigit = false) :
    digits (ds.map some ++ rest) = (ds, rest) := by
  induction ds with
  | nil =>
    cases rest with
    | nil => rfl
    | cons l rest =>
      cases l with
      | none => rfl
      | some c => simp [digits, hrest c rfl]
  | cons d ds ih =>
    have hd := hds d List.mem_cons_self
    simp [digits, hd, ih fun c hc => hds c (List.mem_cons_of_mem d hc)]

theorem gather_of_lt (ds : List Char) (n : Nat)
    (h : Nat.ofDigitChars 10 ds n < UInt64.size) :
    gather n ds = (Nat.ofDigitChars 10 ds n, []) := by
  induction ds generalizing n with
  | nil => rfl
  | cons c ds ih =>
    rw [Nat.ofDigitChars_cons] at h ⊢
    have hle : 10 * n + (c.toNat - '0'.toNat) ≤
        Nat.ofDigitChars 10 ds (10 * n + (c.toNat - '0'.toNat)) := by
      have hpos : 0 < 10 ^ ds.length := Nat.pow_pos (by decide)
      rw [Nat.ofDigitChars_eq_ofDigitChars_zero]
      exact Nat.le_trans (Nat.le_mul_of_pos_left _ hpos) (Nat.le_add_right _ _)
    rw [gather]
    simp only [Nat.mul_comm n 10]
    rw [if_pos (by omega), ih _ h]

theorem digits?_toDigits (n : Nat) (hrest : Delimited rest) :
    digits? ((Nat.toDigits 10 n).map some ++ rest) = some (Nat.toDigits 10 n, rest) := by
  have hdigits : digits ((Nat.toDigits 10 n).map some ++ rest) = (Nat.toDigits 10 n, rest) :=
    digits_append (fun c hc => Nat.isDigit_of_mem_toDigits (by decide) (by decide) hc)
      hrest.not_digit
  simp [digits?, hdigits]

theorem isSpace_of_isDigit (h : c.isDigit = true) : isSpace c = false := by
  have hne : ∀ d : Char, d.isDigit = false → c ≠ d := by
    rintro d hd rfl
    rw [h] at hd
    cases hd
  simp [isSpace, hne ' ' rfl, hne '\n' rfl, hne '\t' rfl, hne '\r' rfl]

theorem numberText?_toDigits (n : Nat) (hrest : Delimited rest) :
    numberText? ((Nat.toDigits 10 n).map some ++ rest) =
      some (⟨false, Nat.toDigits 10 n, [], none⟩, rest) := by
  have hdigits := digits?_toDigits n hrest
  have hzero := leadingZero_toDigits n
  obtain ⟨d, ds, hcons, hd⟩ := toDigits_eq_cons n
  have hminus : d ≠ '-' := by
    intro h
    rw [h] at hd
    cases hd
  unfold numberText?
  rw [hcons] at hdigits hzero ⊢
  simp only [List.map_cons, List.cons_append] at hdigits ⊢
  simp only [List.cons.injEq, Option.some.injEq, hminus, false_and, imp_self, implies_true,
    hdigits, Option.bind_eq_bind, Option.bind_some, hzero]
  rcases hrest with rfl | ⟨after, rfl | rfl⟩
  · rfl
  · rfl
  · rfl

theorem value?_numberText (n : Nat) (h : n < UInt64.size) :
    (⟨false, Nat.toDigits 10 n, [], none⟩ : NumberText).value? = some (.int n) := by
  have hvalue : Nat.ofDigitChars 10 (Nat.toDigits 10 n) 0 = n := Nat.ofDigitChars_ten_toDigits
  have hgather := gather_of_lt (Nat.toDigits 10 n) 0 (by rw [hvalue]; exact h)
  simp [NumberText.value?, hgather, hvalue]

/-! ## Values that read back -/

/-- Whatever comes after the text of a value, the text is read as that value and no further. -/
structure ReadsBack (depth : Nat) (shape : Shape) (v : Value) : Prop where
  /-- The text does not start like the end of a list. -/
  starts : ∀ d, ∃ c cs, letters (writePrettyAt d v) = some c :: cs ∧ isSpace c = false ∧ c ≠ ']'
  reads : ∀ d fuel rest, Delimited rest → 2 * (letters (writePrettyAt d v)).length ≤ fuel →
    value? fuel depth shape (letters (writePrettyAt d v) ++ rest) = some (v, rest)

theorem readsBack_text (h : shape ≠ .skip) (s : String) : ReadsBack depth shape (.str s) where
  starts d := ⟨'"', _, letters_quote s, rfl, by decide⟩
  reads d fuel rest hrest hfuel := by
    have hwrite : writePrettyAt d (.str s) = quote s := rfl
    have hstart : skipSpace (letters (quote s) ++ rest) =
        some '"' :: ((s.toList.flatMap quoteChar).map some ++ some '"' :: rest) := by
      simp [letters_quote, skipSpace, isSpace]
    rw [hwrite] at hfuel ⊢
    cases fuel with
    | zero => simp [letters_quote] at hfuel
    | succ fuel =>
      unfold value?
      rw [hstart]
      simp only [quoted?_quote, Option.map_some, String.ofList_toList]

theorem readsBack_flag (b : Bool) : ReadsBack depth shape (.bool b) where
  starts d := by
    cases b
    · exact ⟨'f', letters "alse", by simp [writePrettyAt, write, letters], rfl, by decide⟩
    · exact ⟨'t', letters "rue", by simp [writePrettyAt, write, letters], rfl, by decide⟩
  reads d fuel rest hrest hfuel := by
    cases fuel with
    | zero => cases b <;> simp [writePrettyAt, write, letters] at hfuel
    | succ fuel =>
      cases b with
      | false =>
        have hstart : skipSpace (letters (writePrettyAt d (.bool false)) ++ rest) =
            some 'f' :: (letters "alse" ++ rest) := by
          simp [writePrettyAt, write, letters, skipSpace, isSpace]
        unfold value?
        simp only [hstart, word?_append, Option.map_some]
      | true =>
        have hstart : skipSpace (letters (writePrettyAt d (.bool true)) ++ rest) =
            some 't' :: (letters "rue" ++ rest) := by
          simp [writePrettyAt, write, letters, skipSpace, isSpace]
        unfold value?
        simp only [hstart, word?_append, Option.map_some]

theorem readsBack_null : ReadsBack depth shape .null where
  starts d := ⟨'n', letters "ull", by simp [writePrettyAt, write, letters], rfl, by decide⟩
  reads d fuel rest hrest hfuel := by
    cases fuel with
    | zero => simp [writePrettyAt, write, letters] at hfuel
    | succ fuel =>
      have hstart : skipSpace (letters (writePrettyAt d .null) ++ rest) =
          some 'n' :: (letters "ull" ++ rest) := by
        simp [writePrettyAt, write, letters, skipSpace, isSpace]
      unfold value?
      simp only [hstart, word?_append, Option.map_some]

theorem letters_writeNat (d n : Nat) :
    letters (writePrettyAt d (.ofNat n)) = (Nat.toDigits 10 n).map some := by
  show letters (Decimal.writeInt n) = _
  simp [Decimal.writeInt, letters]

theorem readsBack_natural (hshape : shape ≠ .skip) (hn : n < UInt64.size) :
    ReadsBack depth shape (.ofNat n) where
  starts d := by
    obtain ⟨c, cs, hcons, hc⟩ := toDigits_eq_cons n
    refine ⟨c, cs.map some, by rw [letters_writeNat, hcons, List.map_cons],
      isSpace_of_isDigit hc, ?_⟩
    intro h
    rw [h] at hc
    cases hc
  reads d fuel rest hrest hfuel := by
    obtain ⟨c, cs, hcons, hc⟩ := toDigits_eq_cons n
    have hnumber := numberText?_toDigits n hrest
    have hvalue := value?_numberText n hn
    rw [letters_writeNat] at hfuel ⊢
    cases fuel with
    | zero => simp [hcons] at hfuel
    | succ fuel =>
      have hstart : skipSpace ((Nat.toDigits 10 n).map some ++ rest) =
          (Nat.toDigits 10 n).map some ++ rest := by
        rw [hcons, List.map_cons, List.cons_append]
        exact skipSpace_cons (isSpace_of_isDigit hc) _
      unfold value?
      rw [hstart]
      rw [hcons] at hnumber hvalue ⊢
      simp only [List.map_cons, List.cons_append] at hnumber ⊢
      -- A digit starts nothing but a number.
      split
      case h_7 =>
        simp only [hnumber, hvalue, Option.bind_eq_bind, Option.bind_some]
        rfl
      all_goals
        rename_i heq
        cases heq
        cases hc

/-! ## Lists and objects -/

theorem value?_newline (fuel depth d : Nat) (shape : Shape) (cs : List Letter) :
    value? fuel depth shape (letters (newline d) ++ cs) = value? fuel depth shape cs := by
  cases fuel with
  | zero =>
    unfold value?
    rfl
  | succ fuel =>
    unfold value?
    rw [skipSpace_newline]

theorem items?_newline (fuel depth index d : Nat) (shape : Shape) (cs : List Letter) :
    items? fuel depth shape index (letters (newline d) ++ cs) =
      items? fuel depth shape index cs := by
  cases fuel with
  | zero =>
    unfold items?
    rfl
  | succ fuel =>
    unfold items?
    rw [value?_newline]

theorem fields?_newline (fuel depth d : Nat) (shape : Shape) (cs : List Letter) :
    fields? fuel depth shape (letters (newline d) ++ cs) = fields? fuel depth shape cs := by
  cases fuel with
  | zero =>
    unfold fields?
    rfl
  | succ fuel =>
    unfold fields?
    rw [skipSpace_newline]

theorem delimited_newline (d : Nat) (cs : List Letter) : Delimited (letters (newline d) ++ cs) := by
  rw [letters_newline]
  exact .inr ⟨_, .inr rfl⟩

theorem delimited_comma (cs : List Letter) : Delimited (letters "," ++ cs) :=
  .inr ⟨cs, .inl (by simp [letters])⟩

theorem length_comma : (letters ",").length = 1 := by simp [letters]

theorem skipSpace_comma (cs : List Letter) : skipSpace (letters "," ++ cs) = some ',' :: cs := by
  simp [letters, skipSpace, isSpace]

theorem items?_writePrettyItems (hitem : ∀ i, shape.item i = inner) (hne : xs ≠ [])
    (h : ∀ x ∈ xs, ReadsBack depth inner x) (d d' index fuel : Nat) (rest : List Letter)
    (hfuel : 2 * (letters (writePrettyItems d xs)).length < fuel) :
    items? fuel depth shape index
      (letters (writePrettyItems d xs) ++ (letters (newline d') ++ some ']' :: rest)) =
      some (xs, rest) := by
  induction xs generalizing index fuel with
  | nil => exact absurd rfl hne
  | cons x xs ih =>
    have hx := h x List.mem_cons_self
    cases fuel with
    | zero => omega
    | succ fuel =>
      cases xs with
      | nil =>
        simp only [writePrettyItems, letters_append, List.length_append] at hfuel ⊢
        rw [List.append_assoc, items?_newline, items?, hitem,
          hx.reads d fuel _ (delimited_newline d' _) (by omega)]
        simp only [Option.bind_eq_bind, Option.bind_some, skipSpace_newline]
        rw [skipSpace_cons rfl]
        rfl
      | cons y ys =>
        have hrest := ih (by simp) (fun z hz => h z (List.mem_cons_of_mem x hz)) (index + 1) fuel
        have hitems : writePrettyItems d (x :: y :: ys) =
            newline d ++ writePrettyAt d x ++ "," ++ writePrettyItems d (y :: ys) := rfl
        rw [hitems] at hfuel ⊢
        simp only [letters_append, List.length_append, List.append_assoc,
          length_comma] at hfuel ⊢
        rw [items?_newline, items?, hitem, hx.reads d fuel _ (delimited_comma _) (by omega)]
        simp only [Option.bind_eq_bind, Option.bind_some, skipSpace_comma]
        rw [hrest (by omega)]
        rfl

theorem skipSpace_quote (k : String) (cs : List Letter) : skipSpace (letters (quote k) ++ cs) =
    some '"' :: ((k.toList.flatMap quoteChar).map some ++ some '"' :: cs) := by
  simp [letters_quote, skipSpace, isSpace]

theorem word?_colon (cs : List Letter) :
    word? ":" (skipSpace (letters ": " ++ cs)) = some (some ' ' :: cs) := by
  have hsplit : skipSpace (letters ": " ++ cs) = letters ":" ++ some ' ' :: cs := by
    simp [letters, skipSpace, isSpace]
  rw [hsplit, word?_append]

theorem value?_blank (fuel depth : Nat) (shape : Shape) (cs : List Letter) :
    value? fuel depth shape (some ' ' :: cs) = value? fuel depth shape cs := by
  cases fuel with
  | zero =>
    unfold value?
    rfl
  | succ fuel =>
    unfold value?
    rfl

/-- One field is read, and it depends on what follows whether there are more. -/
theorem fields?_field {k : String} {x : Value} (hshape : shape ≠ .skip)
    (hx : ReadsBack depth (shape.field k) x)
    (d fuel : Nat) (rest : List Letter) (hrest : Delimited rest)
    (hfuel : 2 * (letters (writePrettyAt d x)).length ≤ fuel) :
    fields? (fuel + 1) depth shape (letters (newline d) ++
        (letters (quote k) ++ (letters ": " ++ (letters (writePrettyAt d x) ++ rest)))) =
      match skipSpace rest with
      | some ',' :: rest => (fields? fuel depth (shape.after k) rest).bind fun read =>
        some ((k, x) :: read.1, read.2)
      | some '\x7d' :: rest => some ([(k, x)], rest)
      | _ => none := by
  rw [fields?_newline, fields?, skipSpace_quote]
  simp only [quoted?_quote, Option.bind_eq_bind, Option.bind_some, String.ofList_toList,
    word?_colon, value?_blank]
  · rw [hx.reads d fuel _ hrest hfuel]
    rfl
  · exact hshape

/-- The fields of an object read back one after another, each where the shape that the fields
before it leave is expected. -/
def FieldsReadBack (depth : Nat) : Shape → List (String × Value) → Prop
  | _, [] => True
  | shape, (k, x) :: fs =>
    shape ≠ .skip ∧ ReadsBack depth (shape.field k) x ∧ FieldsReadBack depth (shape.after k) fs

theorem fieldsReadBack_of_forall (hshape : shape ≠ .skip) (hafter : ∀ k, shape.after k = shape)
    (h : ∀ f ∈ fs, ReadsBack depth (shape.field f.1) f.2) : FieldsReadBack depth shape fs := by
  induction fs with
  | nil => exact trivial
  | cons f fs ih =>
    refine ⟨hshape, h f List.mem_cons_self, ?_⟩
    rw [hafter]
    exact ih fun g hg => h g (List.mem_cons_of_mem _ hg)

theorem fields?_writePrettyFields (hne : fs ≠ []) (h : FieldsReadBack depth shape fs)
    (d d' fuel : Nat) (rest : List Letter)
    (hfuel : 2 * (letters (writePrettyFields d fs)).length < fuel) :
    fields? fuel depth shape
      (letters (writePrettyFields d fs) ++ (letters (newline d') ++ some '\x7d' :: rest)) =
      some (fs, rest) := by
  induction fs generalizing fuel shape with
  | nil => exact absurd rfl hne
  | cons f fs ih =>
    obtain ⟨k, x⟩ := f
    obtain ⟨hshape, hx, hmore⟩ := h
    cases fuel with
    | zero => omega
    | succ fuel =>
      cases fs with
      | nil =>
        simp only [writePrettyFields, letters_append, List.length_append,
          List.append_assoc] at hfuel ⊢
        rw [fields?_field hshape hx d fuel _ (delimited_newline d' _) (by omega), skipSpace_newline,
          skipSpace_cons rfl]
        rfl
      | cons g gs =>
        have hrest := ih (by simp) hmore fuel
        have hfields : writePrettyFields d ((k, x) :: g :: gs) = newline d ++ quote k ++ ": " ++
            writePrettyAt d x ++ "," ++ writePrettyFields d (g :: gs) := rfl
        rw [hfields] at hfuel ⊢
        simp only [letters_append, List.length_append, List.append_assoc,
          length_comma] at hfuel ⊢
        rw [fields?_field hshape hx d fuel _ (delimited_comma _) (by omega), skipSpace_comma]
        show (fields? fuel depth (shape.after k) _).bind _ = _
        rw [hrest (by omega)]
        rfl

theorem writePrettyItems_cons (d : Nat) (x : Value) (xs : List Value) :
    ∃ tail, letters (writePrettyItems d (x :: xs)) =
      letters (newline d) ++ (letters (writePrettyAt d x) ++ tail) := by
  cases xs with
  | nil => exact ⟨[], by simp [writePrettyItems]⟩
  | cons y ys =>
    refine ⟨letters "," ++ letters (writePrettyItems d (y :: ys)), ?_⟩
    simp only [writePrettyItems, letters_append, List.append_assoc]

theorem writePrettyFields_cons (d : Nat) (k : String) (x : Value) (fs : List (String × Value)) :
    ∃ tail, letters (writePrettyFields d ((k, x) :: fs)) =
      letters (newline d) ++ (letters (quote k) ++ tail) := by
  cases fs with
  | nil =>
    refine ⟨letters ": " ++ letters (writePrettyAt d x), ?_⟩
    simp only [writePrettyFields, letters_append, List.append_assoc]
  | cons f fs =>
    refine ⟨letters ": " ++ (letters (writePrettyAt d x) ++
      (letters "," ++ letters (writePrettyFields d (f :: fs)))), ?_⟩
    simp only [writePrettyFields, letters_append, List.append_assoc]

theorem value?_emptyList (d fuel depth : Nat) (shape : Shape) (rest : List Letter) :
    value? (fuel + 1) (depth + 1) shape (letters (writePrettyAt d (.arr [])) ++ rest) =
      some (.arr [], rest) := by
  have hstart : skipSpace (letters (writePrettyAt d (.arr [])) ++ rest) =
      some '[' :: some ']' :: rest := by
    simp [writePrettyAt, letters, skipSpace, isSpace]
  have hend : skipSpace (some ']' :: rest) = some ']' :: rest := skipSpace_cons rfl rest
  unfold value?
  simp only [hstart, hend, Nat.succ_ne_zero, decide_false, Bool.false_and, Bool.false_eq_true,
    if_false]

theorem letters_list (d : Nat) (x : Value) (xs : List Value) :
    letters (writePrettyAt d (.arr (x :: xs))) = some '[' ::
      (letters (writePrettyItems (d + 1) (x :: xs)) ++ (letters (newline d) ++ [some ']'])) := by
  simp [writePrettyAt, letters]

theorem readsBack_list (hitem : ∀ i, shape.item i = inner)
    (h : ∀ x ∈ xs, ReadsBack depth inner x) : ReadsBack (depth + 1) shape (.arr xs) where
  starts d := by
    cases xs with
    | nil => exact ⟨'[', [some ']'], by simp [writePrettyAt, letters], rfl, by decide⟩
    | cons x xs => exact ⟨'[', _, letters_list d x xs, rfl, by decide⟩
  reads d fuel rest hrest hfuel := by
    cases fuel with
    | zero => cases xs <;> simp [writePrettyAt, letters] at hfuel
    | succ fuel =>
      cases xs with
      | nil => exact value?_emptyList d fuel depth shape rest
      | cons x xs =>
        have hstart : skipSpace (letters (writePrettyAt d (.arr (x :: xs))) ++ rest) = some '[' ::
            (letters (writePrettyItems (d + 1) (x :: xs)) ++
              (letters (newline d) ++ some ']' :: rest)) := by
          rw [letters_list, List.cons_append, skipSpace_cons rfl]
          simp
        have hitems := items?_writePrettyItems hitem (by simp) h (d + 1) d 0 fuel rest (by
          rw [letters_list] at hfuel
          simp only [List.length_cons, List.length_append] at hfuel
          omega)
        obtain ⟨tail, htail⟩ := writePrettyItems_cons (d + 1) x xs
        obtain ⟨c, cs, hfirst, hspace, hend⟩ := (h x List.mem_cons_self).starts (d + 1)
        rw [htail, List.append_assoc, items?_newline, hfirst] at hitems
        unfold value?
        simp only [hstart, Nat.succ_ne_zero, decide_false, Bool.false_and, Bool.false_eq_true,
          if_false, htail, List.append_assoc, skipSpace_newline, Nat.add_sub_cancel]
        rw [hfirst]
        simp only [List.cons_append, List.append_assoc] at hitems ⊢
        rw [skipSpace_cons hspace]
        split
        · rename_i heq
          cases heq
          exact absurd rfl hend
        · rw [hitems]
          rfl

theorem readsBack_records {α : Type} {encode : α → Value} {items : List α}
    (h : ∀ x, ReadsBack depth inner (encode x)) :
    ReadsBack (depth + 1) (.list inner) (.arr (items.map encode)) := by
  refine readsBack_list (fun _ => rfl) fun v hv => ?_
  obtain ⟨x, -, rfl⟩ := List.mem_map.1 hv
  exact h x

theorem value?_emptyObject (d fuel depth : Nat) (shape : Shape) (rest : List Letter) :
    value? (fuel + 1) (depth + 1) shape (letters (writePrettyAt d (.obj [])) ++ rest) =
      some (.obj [], rest) := by
  have hstart : skipSpace (letters (writePrettyAt d (.obj [])) ++ rest) =
      some '\x7b' :: some '\x7d' :: rest := by
    simp [writePrettyAt, letters, skipSpace, isSpace]
  have hend : skipSpace (some '\x7d' :: rest) = some '\x7d' :: rest := skipSpace_cons rfl rest
  unfold value?
  simp only [hstart, hend, Nat.succ_ne_zero, decide_false, Bool.false_and, Bool.false_eq_true,
    if_false]

theorem letters_object (d : Nat) (f : String × Value) (fs : List (String × Value)) :
    letters (writePrettyAt d (.obj (f :: fs))) = some '\x7b' ::
      (letters (writePrettyFields (d + 1) (f :: fs)) ++
        (letters (newline d) ++ [some '\x7d'])) := by
  simp [writePrettyAt, letters]

/-- An object reads back if its fields do, in their order. -/
theorem readsBack_object (hkeeps : shape.keepsFields = true) (h : FieldsReadBack depth shape fs) :
    ReadsBack (depth + 1) shape (.obj fs) where
  starts d := by
    cases fs with
    | nil => exact ⟨'\x7b', [some '\x7d'], by simp [writePrettyAt, letters], rfl, by decide⟩
    | cons f fs => exact ⟨'\x7b', _, letters_object d f fs, rfl, by decide⟩
  reads d fuel rest hrest hfuel := by
    cases fuel with
    | zero => cases fs <;> simp [writePrettyAt, letters] at hfuel
    | succ fuel =>
      cases fs with
      | nil => exact value?_emptyObject d fuel depth shape rest
      | cons f fs =>
        obtain ⟨k, x⟩ := f
        have hstart : skipSpace (letters (writePrettyAt d (.obj ((k, x) :: fs))) ++ rest) =
            some '\x7b' :: (letters (writePrettyFields (d + 1) ((k, x) :: fs)) ++
              (letters (newline d) ++ some '\x7d' :: rest)) := by
          rw [letters_object, List.cons_append, skipSpace_cons rfl]
          simp
        have hfields := fields?_writePrettyFields (by simp) h (d + 1) d fuel rest (by
          rw [letters_object] at hfuel
          simp only [List.length_cons, List.length_append] at hfuel
          omega)
        obtain ⟨tail, htail⟩ := writePrettyFields_cons (d + 1) k x fs
        rw [htail, List.append_assoc, fields?_newline, letters_quote] at hfields
        unfold value?
        simp only [hstart, Nat.succ_ne_zero, decide_false, Bool.false_and, Bool.false_eq_true,
          if_false, htail, List.append_assoc, skipSpace_newline, Nat.add_sub_cancel]
        rw [letters_quote]
        simp only [List.cons_append, List.append_assoc] at hfields ⊢
        rw [skipSpace_cons rfl]
        simp only [hkeeps, if_true]
        split
        · rename_i heq
          cases heq
        · rw [hfields]
          rfl

/-- An object reads back where all fields have one place. -/
theorem readsBack_fields (hshape : shape ≠ .skip) (hkeeps : shape.keepsFields = true)
    (hafter : ∀ k, shape.after k = shape)
    (h : ∀ f ∈ fs, ReadsBack depth (shape.field f.1) f.2) :
    ReadsBack (depth + 1) shape (.obj fs) :=
  readsBack_object hkeeps (fieldsReadBack_of_forall hshape hafter h)

/-! ## Optional values -/

theorem items?_optional (fuel depth index : Nat) (cs : List Letter) :
    items? fuel depth (.optional inner) index cs = items? fuel depth inner index cs := by
  induction fuel generalizing index cs with
  | zero =>
    unfold items?
    rfl
  | succ fuel ih =>
    unfold items?
    simp only [Shape.item, ih]

theorem fields?_optional (hvalue : inner ≠ .skip) (fuel depth : Nat) (cs : List Letter) :
    fields? fuel depth (.optional inner) cs = fields? fuel depth inner cs := by
  cases fuel with
  | zero =>
    unfold fields?
    rfl
  | succ fuel =>
    unfold fields?
    simp only [Shape.field, Shape.after]

theorem readsBack_optional {v : Value} (hvalue : inner ≠ .skip) (h : ReadsBack depth inner v) :
    ReadsBack depth (.optional inner) v where
  starts := h.starts
  reads d fuel rest hrest hfuel := by
    rw [← h.reads d fuel rest hrest hfuel]
    cases fuel with
    | zero =>
      unfold value?
      rfl
    | succ fuel =>
      unfold value?
      simp only [items?_optional, fields?_optional hvalue, Shape.keepsFields]
      rfl

/-- **A whole text.** -/
theorem ReadsBack.read? {v : Value} (h : ReadsBack 127 shape v) :
    read? shape (writePretty v) = some v := by
  have hreads := h.reads 0 (2 * (letters (writePretty v)).length + 2) [] (.inl rfl) (by
    rw [writePretty]
    omega)
  rw [← writePretty, List.append_nil] at hreads
  simp only [Json.read?, readLetters?, hreads]
  rfl

end ThemedPages.Json
