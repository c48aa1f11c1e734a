import ThemedPages.Proofs.Document.Fields
import ThemedPages.Proofs.Json.ReadBack
import ThemedPages.Theme.Store.Snapshot

/-!
# Records of the theme graph as JSON text

The text of a record of the theme graph reads back where its shape is expected: the shape has a part
for every field that is written, and that part is what the field holds.

**Theorem (`StoreSnapshot.read?_writePretty`).** The text of a snapshot is read as what was written.
A snapshot is five levels deep.
-/

namespace ThemedPages

open Record Json

/-! ## Stylings -/

theorem readsBack_styles (depth : Nat) (s : Styles) :
    ReadsBack (depth + 1) stylesShape (.ofTexts s) := by
  refine readsBack_fields nofun rfl (fun _ => rfl) fun f hf => ?_
  obtain ⟨r, -, rfl⟩ := List.mem_map.1 hf
  exact readsBack_text (by nofun) r.2

theorem Typography.readsBack (depth : Nat) (t : Typography) :
    ReadsBack (depth + 2) Typography.shape t.toValue := by
  refine readsBack_fields nofun rfl (fun _ => rfl) ?_
  simp only [List.forall_mem_append]
  refine ⟨⟨forall_mem_given? fun s _ => ?_, forall_mem_given? fun s _ => ?_⟩,
    forall_mem_given? fun s _ => ?_⟩
  · exact readsBack_optional nofun (readsBack_text (by nofun) s)
  · exact readsBack_optional nofun (readsBack_styles depth s)
  · exact readsBack_optional nofun (readsBack_styles depth s)

theorem Borders.readsBack (depth : Nat) (b : Borders) :
    ReadsBack (depth + 2) Borders.shape b.toValue := by
  refine readsBack_fields nofun rfl (fun _ => rfl) ?_
  simp only [List.forall_mem_append]
  refine ⟨forall_mem_given? fun s _ => ?_, forall_mem_given? fun s _ => ?_⟩
  · exact readsBack_optional nofun (readsBack_styles depth s)
  · exact readsBack_optional nofun (readsBack_styles depth s)

/-- The sections of a styling where a record has the parts for them. -/
theorem Styling.readsBack_givenFields {shape : Shape} (depth : Nat) (s : Styling)
    (htypography : shape.field "typography" = .optional Typography.shape)
    (hspacing : shape.field "spacing" = .optional stylesShape)
    (hshadows : shape.field "shadows" = .optional stylesShape)
    (hborders : shape.field "borders" = .optional Borders.shape) :
    ∀ f ∈ s.givenFields, ReadsBack (depth + 2) (shape.field f.1) f.2 := by
  simp only [Styling.givenFields, List.forall_mem_append]
  refine ⟨⟨⟨forall_mem_given? fun t _ => ?_, forall_mem_given? fun t _ => ?_⟩,
    forall_mem_given? fun t _ => ?_⟩, forall_mem_given? fun b _ => ?_⟩
  · rw [htypography]
    exact readsBack_optional nofun (t.readsBack depth)
  · rw [hspacing]
    exact readsBack_optional nofun (readsBack_styles (depth + 1) t)
  · rw [hshadows]
    exact readsBack_optional nofun (readsBack_styles (depth + 1) t)
  · rw [hborders]
    exact readsBack_optional nofun (b.readsBack depth)

/-! ## Themes, variations, assignments -/

theorem Theme.readsBack (depth : Nat) (t : Theme) :
    ReadsBack (depth + 3) Theme.shape t.toValue := by
  refine readsBack_fields nofun rfl (fun _ => rfl) ?_
  simp only [Theme.toFields, List.forall_mem_append, List.forall_mem_cons, List.not_mem_nil,
    IsEmpty.forall_iff, implies_true, and_true]
  refine ⟨⟨⟨⟨⟨⟨⟨?_, ?_, ?_⟩, forall_mem_given? fun s _ => ?_⟩, ?_, ?_⟩, ?_⟩, ?_, ?_⟩,
    forall_mem_given? fun s _ => ?_⟩, ?_⟩
  · exact readsBack_text (by nofun) t.id
  · exact readsBack_text (by nofun) t.name
  · exact readsBack_text (by nofun) t.displayName
  · exact readsBack_optional nofun (readsBack_text (by nofun) s)
  · exact readsBack_text (by nofun) t.category.name
  · exact readsBack_optional nofun (readsBack_styles (depth + 1) t.colors)
  · exact t.styling.readsBack_givenFields depth rfl rfl rfl rfl
  · exact readsBack_flag t.isSystem
  · exact readsBack_flag t.isDefault
  · exact readsBack_optional nofun (readsBack_text (by nofun) s)
  · exact readsBack_text (by nofun) t.version

theorem Variation.readsBack (depth : Nat) (v : Variation) :
    ReadsBack (depth + 3) Variation.shape v.toValue := by
  refine readsBack_fields nofun rfl (fun _ => rfl) ?_
  simp only [List.forall_mem_append, List.forall_mem_cons, List.not_mem_nil,
    IsEmpty.forall_iff, implies_true, and_true]
  refine ⟨⟨⟨⟨⟨?_, ?_, ?_, ?_⟩, forall_mem_given? fun s _ => ?_⟩, forall_mem_given? fun s _ => ?_⟩,
    ?_⟩, ?_, ?_, ?_⟩
  · exact readsBack_text (by nofun) v.id
  · exact readsBack_text (by nofun) v.parentId
  · exact readsBack_text (by nofun) v.name
  · exact readsBack_text (by nofun) v.displayName
  · exact readsBack_optional nofun (readsBack_text (by nofun) s)
  · exact readsBack_optional nofun (readsBack_styles (depth + 1) s)
  · exact v.styling.readsBack_givenFields depth rfl rfl rfl rfl
  · exact readsBack_natural (by nofun) (Nat.lt_trans v.depth.toNat_lt_size (by decide))
  · exact readsBack_records fun s => readsBack_text (by nofun) s
  · exact readsBack_text (by nofun) v.createdAt.toText

theorem Assignment.readsBack (depth : Nat) (a : Assignment) :
    ReadsBack (depth + 1) Assignment.shape a.toValue := by
  refine readsBack_fields nofun rfl (fun _ => rfl) ?_
  simp only [List.forall_mem_append, List.forall_mem_cons, List.not_mem_nil,
    IsEmpty.forall_iff, implies_true, and_true]
  refine ⟨⟨⟨?_, ?_⟩, forall_mem_given? fun s _ => ?_⟩, ?_⟩
  · exact readsBack_text (by nofun) a.pageId
  · exact readsBack_text (by nofun) a.target.themeId
  · exact readsBack_optional nofun (readsBack_text (by nofun) s)
  · exact readsBack_flag a.target.isVariation

/-! ## Snapshots -/

/-- **The text of a snapshot reads back.** -/
theorem StoreSnapshot.read?_writePretty (s : StoreSnapshot) :
    Json.read? StoreSnapshot.shape (Json.writePretty s.toValue) = some s.toValue := by
  refine ReadsBack.read? (readsBack_fields nofun rfl (fun _ => rfl) ?_)
  simp only [List.forall_mem_cons, List.not_mem_nil, IsEmpty.forall_iff, implies_true, and_true]
  refine ⟨?_, ?_, ?_⟩
  · exact readsBack_records (Theme.readsBack 122)
  · exact readsBack_records (Variation.readsBack 122)
  · exact readsBack_records (Assignment.readsBack 124)

end ThemedPages
