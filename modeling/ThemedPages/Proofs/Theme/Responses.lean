import ThemedPages.Proofs.Theme.Records
import ThemedPages.Proofs.Theme.Texts
import ThemedPages.Theme.Response

/-!
# Responses of a store are read again

A store can answer over a wire: its response is written as a value, and read from that value on the
other side. A payload that is absent is left out, and is read as absent; so a payload survives if it
is not written as null, which is read as absent too. A refusal always survives.

**Theorem (`read_iff`).** A response is read again unless it is the success of a call that has no
record to give. Its payload is written as null, so what is read is a success without data, which is
a failure of the store.
-/

namespace ThemedPages

open Record Json

/-! ## Refusals -/

theorem EntityKind.decodes (k : EntityKind) : Decodes EntityKind.ofValue? k.toValue k where
  decode_eq := by cases k <;> decide
  ne_null := nofun

namespace Refusal

theorem decodes_notFound (kind : EntityKind) (id : String) :
    Decodes (notFoundOfValue? EntityKind.ofValue?)
      (.obj [("kind", kind.toValue), ("id", .str id)]) (.notFound kind id) where
  decode_eq := by
    obtain ⟨f, hf⟩ : ∃ f, f = [("kind", kind.toValue), ("id", Value.str id)] := ⟨_, rfl⟩
    have hwritten : Written f ["kind", "id"] := hf ▸ written_self _
    have hfields : Record.fields? ["kind", "id"]
        (.obj [("kind", kind.toValue), ("id", .str id)]) = some f :=
      hf ▸ hwritten.fields?_eq (by decide)
    have hkind : required f "kind" EntityKind.ofValue? = some kind :=
      required_eq (by simp [hf]) kind.decodes
    have hid : required f "id" text = some id :=
      required_eq (by simp [hf, List.lookup_cons]) (decodes_text id)
    simp only [notFoundOfValue?, hfields, hkind, hid, Option.bind_eq_bind, Option.bind_some]
    rfl
  ne_null := nofun

/-- The code of a refusal stands first, so that its message is read for what it is. -/
theorem decodes (r : Refusal) : Decodes ofValue? r.toValue r where
  decode_eq := by
    cases r with
    | notFound kind id => exact (decodes_notFound kind id).decode_eq
    | conflict m => rfl
    | rejected m => rfl
  ne_null := by cases r <;> nofun

theorem readsBack (depth : Nat) (r : Refusal) :
    ReadsBack (depth + 2) Refusal.shape r.toValue := by
  have htagged : ∀ {code : String} {message : Value},
      ReadsBack (depth + 1) (.record [("kind", .whole), ("id", .text)]) message →
      ReadsBack (depth + 2) Refusal.shape (.obj [("code", .str code), ("message", message)]) := by
    intro code message hmessage
    refine readsBack_object rfl ⟨nofun, readsBack_text (by nofun) code, nofun, ?_, trivial⟩
    exact hmessage
  cases r with
  | notFound kind id =>
    refine htagged (readsBack_fields nofun rfl (fun _ => rfl) ?_)
    simp only [List.forall_mem_cons, List.not_mem_nil, IsEmpty.forall_iff, implies_true, and_true]
    exact ⟨readsBack_text (by nofun) kind.name, readsBack_text (by nofun) id⟩
  | conflict m => exact htagged (readsBack_text (by nofun) m)
  | rejected m => exact htagged (readsBack_text (by nofun) m)

end Refusal

/-! ## Payloads -/

/-- What the calls that change a store answer with: a record, or nothing. -/
inductive PayloadKind
  | theme
  | variation
  | assignment
  | nothing
  deriving DecidableEq, Repr

namespace PayloadKind

/-- The payloads of a kind. -/
def Payload : PayloadKind → Type
  | theme => Theme
  | variation => Variation
  | assignment => Assignment
  | nothing => Unit

/-- A payload as a value. -/
def toValue : (k : PayloadKind) → k.Payload → Value
  | theme, t => Theme.toValue t
  | variation, v => Variation.toValue v
  | assignment, a => Assignment.toValue a
  | nothing, () => .null

/-- Read a payload. -/
def ofValue? : (k : PayloadKind) → Value → Option k.Payload
  | theme, v => Theme.ofValue? v
  | variation, v => Variation.ofValue? v
  | assignment, v => Assignment.ofValue? v
  | nothing, .null => some ()
  | nothing, _ => none

/-- The parts that a payload is read from. -/
def shape : PayloadKind → Shape
  | theme => Theme.shape
  | variation => Variation.shape
  | assignment => Assignment.shape
  | nothing => .whole

/-- A payload has no time, or one that has a text. -/
def IsTimely : (k : PayloadKind) → k.Payload → Prop
  | variation, v => Variation.createdAt v |>.IsValid
  | theme, _ | assignment, _ | nothing, _ => True

theorem decodes {k : PayloadKind} (hk : k ≠ nothing) {x : k.Payload} (hx : k.IsTimely x) :
    Decodes k.ofValue? (k.toValue x) x := by
  cases k with
  | theme => exact Theme.decodes x
  | variation => exact Variation.decodes hx
  | assignment => exact Assignment.decodes x
  | nothing => exact absurd rfl hk

theorem readsBack (depth : Nat) (k : PayloadKind) (x : k.Payload) :
    ReadsBack (depth + 3) (.optional k.shape) (k.toValue x) := by
  cases k with
  | theme => exact readsBack_optional nofun (Theme.readsBack depth x)
  | variation => exact readsBack_optional nofun (Variation.readsBack depth x)
  | assignment => exact readsBack_optional nofun (Assignment.readsBack (depth + 2) x)
  | nothing => exact readsBack_optional nofun readsBack_null

end PayloadKind

/-! ## Responses -/

namespace StoreResponse

variable {α : Type} {encode : α → Value} {decode : Value → Option α}

/-- The data decide what of a response is read again: the rest of it always is. -/
theorem ofValue?_toValue (r : StoreResponse α) {x : Option α}
    (hdata : optional (given? "data" encode r.data) "data" decode = some x) :
    ofValue? decode (toValue encode r) = some { r with data := x } := by
  obtain ⟨f, hf⟩ : ∃ f, f = [("success", Value.bool r.success)] ++
      given? "data" encode r.data ++ given? "error" Refusal.toValue r.error := ⟨_, rfl⟩
  have hwritten : Written f ["success", "data", "error"] := by
    rw [hf]
    exact ((written_self _).append (written_given? _ _ _)).append (written_given? _ _ _)
  have hfields : fields? ["success", "data", "error"] (toValue encode r) = some f :=
    hf ▸ hwritten.fields?_eq (by decide)
  have hsuccess : required f "success" flag = some r.success :=
    required_eq (by simp [hf]) (decodes_flag r.success)
  have hlookup : f.lookup "data" = (given? "data" encode r.data).lookup "data" := by
    simp [hf, List.lookup_cons, List.lookup_append]
  have hread : optional f "data" decode = some x := by
    rw [← hdata]
    simp only [Record.optional, hlookup]
  have herror : optional f "error" Refusal.ofValue? = some r.error :=
    optional_eq (by simp [hf, List.lookup_cons, List.lookup_append]) fun y _ => y.decodes
  simp only [ofValue?, hfields, hsuccess, hread, herror, Option.bind_eq_bind, Option.bind_some]
  rfl

/-- Data that are written as null are read as absent. -/
theorem ofValue?_toValue_of_null (r : StoreResponse α) (hnull : ∀ x, encode x = .null) :
    ofValue? decode (toValue encode r) = some { r with data := none } := by
  refine r.ofValue?_toValue ?_
  cases r.data with
  | none => rfl
  | some x => simp [given?, Record.optional, hnull]

theorem ofValue?_toValue_of_decodes (r : StoreResponse α)
    (hdata : ∀ x, r.data = some x → Decodes decode (encode x) x) :
    ofValue? decode (toValue encode r) = some r :=
  r.ofValue?_toValue (optional_eq (by simp) hdata)

/-- A response as a store makes it: the success with a payload, or a refusal. -/
inductive Made (k : PayloadKind) : StoreResponse k.Payload → Prop
  | ok (x : k.Payload) (timely : k.IsTimely x) : Made k (.ok x)
  | fail (refusal : Refusal) : Made k (.fail refusal)

/-- A response is the success of a call that has no record to give. -/
def IsBare (k : PayloadKind) (r : StoreResponse k.Payload) : Prop :=
  k = .nothing ∧ r.success = true

/-- **The text of a response reads back**, whatever is in it. -/
theorem readsBack (k : PayloadKind) (r : StoreResponse k.Payload) :
    Json.read? (StoreResponse.shape k.shape) (Json.writePretty (r.toValue k.toValue)) =
      some (r.toValue k.toValue) := by
  refine ReadsBack.read? (readsBack_fields nofun rfl (fun _ => rfl) ?_)
  simp only [List.forall_mem_append, List.forall_mem_cons, List.not_mem_nil, IsEmpty.forall_iff,
    implies_true, and_true]
  refine ⟨⟨readsBack_flag r.success, forall_mem_given? fun x _ => ?_⟩,
    forall_mem_given? fun refusal _ => ?_⟩
  · exact k.readsBack 123 x
  · exact readsBack_optional nofun (refusal.readsBack 124)

/-- A success without data is read as what it is, and that is a failure. -/
theorem result_of_no_data (what : String) : (({ success := true } : StoreResponse α).result what) =
    .error (.persistence (what ++ ": store reported success without data")) := rfl

/-- What is read of a bare success. -/
theorem ofValue?_of_isBare {k : PayloadKind} {r : StoreResponse k.Payload} (made : Made k r)
    (hbare : IsBare k r) :
    ofValue? k.ofValue? (r.toValue k.toValue) = some { success := true } ∧
      ∀ what, ∃ x, r.result what = .ok x := by
  obtain ⟨rfl, hsuccess⟩ := hbare
  cases made with
  | ok x => exact ⟨ofValue?_toValue_of_null _ fun _ => rfl, fun what => ⟨x, rfl⟩⟩
  | fail refusal => nomatch hsuccess

/-- All else is read as it was. -/
theorem ofValue?_of_not_isBare {k : PayloadKind} {r : StoreResponse k.Payload} (made : Made k r)
    (hbare : ¬IsBare k r) : ofValue? k.ofValue? (r.toValue k.toValue) = some r := by
  refine r.ofValue?_toValue_of_decodes fun x hx => ?_
  cases made with
  | ok y timely =>
    cases hx
    exact PayloadKind.decodes (fun hk => hbare ⟨hk, rfl⟩) timely
  | fail refusal => nomatch hx

/-- **A response is read again** unless it is a bare success. -/
theorem read_iff (k : PayloadKind) {r : StoreResponse k.Payload} (made : Made k r) :
    ∃ read, ofValue? k.ofValue? (r.toValue k.toValue) = some read ∧
      (Json.read? (StoreResponse.shape k.shape)
        (Json.writePretty (r.toValue k.toValue))).bind (ofValue? k.ofValue?) = some read ∧
      (read = r ↔ ¬IsBare k r) ∧
      (∀ what, read.result what = r.result what ↔ ¬IsBare k r) ∧
      (IsBare k r → read = { success := true } ∧ ∀ what, read.result what =
        .error (.persistence (what ++ ": store reported success without data"))) := by
  rw [readsBack, Option.bind_some]
  by_cases hbare : IsBare k r
  · obtain ⟨hread, hresult⟩ := ofValue?_of_isBare made hbare
    have hlost : ∀ what, ({ success := true } : StoreResponse k.Payload).result what ≠
        r.result what := by
      intro what hsame
      obtain ⟨x, hx⟩ := hresult what
      rw [hx, result_of_no_data] at hsame
      nomatch hsame
    refine ⟨_, hread, hread, iff_of_false ?_ (not_not_intro hbare),
      fun what => iff_of_false (hlost what) (not_not_intro hbare), fun _ => ⟨rfl, result_of_no_data⟩⟩
    intro hsame
    exact hlost "" (congrArg (·.result "") hsame)
  · have hread := ofValue?_of_not_isBare made hbare
    exact ⟨r, hread, hread, iff_of_true rfl hbare, fun what => iff_of_true rfl hbare,
      fun h => absurd h hbare⟩

/-- Of two responses without a record, the refusal is read again and the success is not. -/
theorem read_iff_nothing :
    (∃ read, ofValue? PayloadKind.nothing.ofValue? (toValue PayloadKind.nothing.toValue
          (.fail (.notFound .theme "dark"))) = some read ∧
      read.result "delete theme" = .error (.notFound .theme "dark")) ∧
    ∃ read, ofValue? PayloadKind.nothing.ofValue? (toValue PayloadKind.nothing.toValue
          (.ok ())) = some read ∧
      read.result "delete theme" =
        .error (.persistence "delete theme: store reported success without data") := by
  constructor
  · obtain ⟨read, hread, -, -, hresult, -⟩ :=
      read_iff .nothing (.fail (.notFound .theme "dark"))
    exact ⟨read, hread, (hresult "delete theme").2 nofun⟩
  · obtain ⟨read, hread, -, -, -, hbare⟩ := read_iff .nothing (Made.ok (k := .nothing) () trivial)
    exact ⟨read, hread, (hbare ⟨rfl, rfl⟩).2 "delete theme"⟩

/-- **A bare success is lost**: it is written with a payload, and read without one. -/
theorem success_lost :
    toValue PayloadKind.nothing.toValue (.ok ()) =
      .obj [("success", .bool true), ("data", .null)] ∧
    ∃ read, ofValue? PayloadKind.nothing.ofValue?
          (.obj [("success", .bool true), ("data", .null)]) = some read ∧
      read ≠ ok () ∧ (ok () : StoreResponse Unit).result "delete theme" = .ok () ∧
      read.result "delete theme" =
        .error (.persistence "delete theme: store reported success without data") :=
  ⟨rfl, { success := true }, rfl, nofun, rfl, rfl⟩

end StoreResponse

end ThemedPages
