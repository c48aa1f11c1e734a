import ThemedPages.Proofs.Document.Fields
import ThemedPages.Theme.Store.Snapshot

/-!
# Records of the theme graph are read again

Every record of the theme graph, written as a value, is read as that record. What is absent is left
out, and is read as absent again; style settings are written as texts, and are read as those.

**Theorem (`StoreSnapshot.ofValue?_toValue`).** A snapshot is read again if every variation in it
was made at a time that has a text.

**Theorem (`StoreSnapshot.isValid_of_ofValue?`).** In a snapshot that was read every variation was.
-/

namespace ThemedPages

open Record

/-! ## Stylings -/

theorem decodes_styles (s : Styles) : Decodes stylesOfValue? (.ofTexts s) s where
  decode_eq := by
    have hrows : (s.entries.map fun r => (r.1, Value.str r.2)).mapM
        (fun f => (settingText? f.2).map fun text => (f.1, text)) = some s.entries :=
      mapM_map_encode (fun r _ => rfl)
    simp only [stylesOfValue?, Value.ofTexts, hrows, Option.map_some, Table.ofList_entries]
  ne_null := nofun

theorem Typography.decodes (t : Typography) : Decodes Typography.ofValue? t.toValue t where
  decode_eq := by
    obtain ⟨f, hf⟩ : ∃ f, f = given? "fontFamily" .str t.fontFamily ++
        given? "fontSize" .ofTexts t.fontSize ++ given? "fontWeight" .ofTexts t.fontWeight :=
      ⟨_, rfl⟩
    have hwritten : Written f ["fontFamily", "fontSize", "fontWeight"] := by
      rw [hf]
      exact ((written_given? _ _ _).append (written_given? _ _ _)).append (written_given? _ _ _)
    have hfields : fields? ["fontFamily", "fontSize", "fontWeight"] t.toValue = some f :=
      hf ▸ hwritten.fields?_eq (by decide)
    have hfamily : optional f "fontFamily" text = some t.fontFamily :=
      optional_eq (by simp [hf, List.lookup_append]) fun s _ => decodes_text s
    have hsize : optional f "fontSize" stylesOfValue? = some t.fontSize :=
      optional_eq (by simp [hf, List.lookup_append]) fun s _ => decodes_styles s
    have hweight : optional f "fontWeight" stylesOfValue? = some t.fontWeight :=
      optional_eq (by simp [hf, List.lookup_append]) fun s _ => decodes_styles s
    simp only [Typography.ofValue?, hfields, hfamily, hsize, hweight, Option.bind_eq_bind,
      Option.bind_some]
    rfl
  ne_null := nofun

theorem Borders.decodes (b : Borders) : Decodes Borders.ofValue? b.toValue b where
  decode_eq := by
    obtain ⟨f, hf⟩ : ∃ f, f = given? "radius" .ofTexts b.radius ++
        given? "width" .ofTexts b.width := ⟨_, rfl⟩
    have hwritten : Written f ["radius", "width"] := by
      rw [hf]
      exact (written_given? _ _ _).append (written_given? _ _ _)
    have hfields : fields? ["radius", "width"] b.toValue = some f :=
      hf ▸ hwritten.fields?_eq (by decide)
    have hradius : optional f "radius" stylesOfValue? = some b.radius :=
      optional_eq (by simp [hf, List.lookup_append]) fun s _ => decodes_styles s
    have hwidth : optional f "width" stylesOfValue? = some b.width :=
      optional_eq (by simp [hf, List.lookup_append]) fun s _ => decodes_styles s
    simp only [Borders.ofValue?, hfields, hradius, hwidth, Option.bind_eq_bind, Option.bind_some]
    rfl
  ne_null := nofun

theorem Styling.written (s : Styling) : Written s.givenFields Styling.fieldNames :=
  (((written_given? _ _ _).append (written_given? _ _ _)).append (written_given? _ _ _)).append
    (written_given? _ _ _)

/-- The sections of a styling that stand among the fields of a record. -/
theorem Styling.ofFields?_eq {f : List (String × Value)} (s : Styling)
    (htypography : f.lookup "typography" = s.typography.map Typography.toValue)
    (hspacing : f.lookup "spacing" = s.spacing.map .ofTexts)
    (hshadows : f.lookup "shadows" = s.shadows.map .ofTexts)
    (hborders : f.lookup "borders" = s.borders.map Borders.toValue) :
    Styling.ofFields? f = some s := by
  simp only [Styling.ofFields?, optional_eq htypography fun t _ => t.decodes,
    optional_eq hspacing fun t _ => decodes_styles t,
    optional_eq hshadows fun t _ => decodes_styles t,
    optional_eq hborders fun b _ => b.decodes, Option.bind_eq_bind, Option.bind_some]
  rfl

/-! ## Themes -/

theorem ThemeCategory.decodes (c : ThemeCategory) : Decodes ThemeCategory.ofValue? c.toValue c where
  decode_eq := by cases c <;> decide
  ne_null := nofun

theorem Theme.written (t : Theme) : Written t.toFields Theme.fieldNames := by
  have hnames : Written t.toFields (["id", "name", "display_name"] ++ ["description"] ++
      ["category", "colors"] ++ Styling.fieldNames ++ ["is_system", "is_default"] ++ ["author"] ++
      ["version"]) :=
    ((((((written_self _).append (written_given? _ _ _)).append (written_self _)).append
      t.styling.written).append (written_self _)).append (written_given? _ _ _)).append
        (written_self _)
  exact hnames

theorem Theme.decodes (t : Theme) : Decodes Theme.ofValue? t.toValue t where
  decode_eq := by
    obtain ⟨f, hf⟩ : ∃ f, f = t.toFields := ⟨_, rfl⟩
    have hfields : fields? Theme.fieldNames t.toValue = some f :=
      hf ▸ t.written.fields?_eq (by decide)
    simp only [Theme.toFields, Styling.givenFields] at hf
    have hid : required f "id" text = some t.id :=
      required_eq (by simp [hf]) (decodes_text t.id)
    have hname : required f "name" text = some t.name :=
      required_eq (by simp [hf, List.lookup_cons]) (decodes_text t.name)
    have hdisplay : required f "display_name" text = some t.displayName :=
      required_eq (by simp [hf, List.lookup_cons]) (decodes_text t.displayName)
    have hdescription : optional f "description" text = some t.description :=
      optional_eq (by simp [hf, List.lookup_cons, List.lookup_append]) fun s _ => decodes_text s
    have hcategory : required f "category" ThemeCategory.ofValue? = some t.category :=
      required_eq (by simp [hf, List.lookup_cons, List.lookup_append]) t.category.decodes
    have hcolors : required f "colors" stylesOfValue? = some t.colors :=
      required_eq (by simp [hf, List.lookup_cons, List.lookup_append]) (decodes_styles t.colors)
    have hstyling : Styling.ofFields? f = some t.styling :=
      t.styling.ofFields?_eq (by simp [hf, List.lookup_cons, List.lookup_append])
        (by simp [hf, List.lookup_cons, List.lookup_append])
        (by simp [hf, List.lookup_cons, List.lookup_append])
        (by simp [hf, List.lookup_cons, List.lookup_append])
    have hsystem : withDefault f "is_system" flag false = some t.isSystem :=
      withDefault_eq (by simp [hf, List.lookup_cons, List.lookup_append]) (decodes_flag t.isSystem)
    have hdefault : withDefault f "is_default" flag false = some t.isDefault :=
      withDefault_eq (by simp [hf, List.lookup_cons, List.lookup_append]) (decodes_flag t.isDefault)
    have hauthor : optional f "author" text = some t.author :=
      optional_eq (by simp [hf, List.lookup_cons, List.lookup_append]) fun s _ => decodes_text s
    have hversion : withDefault f "version" text "1.0.0" = some t.version :=
      withDefault_eq (by simp [hf, List.lookup_cons, List.lookup_append]) (decodes_text t.version)
    simp only [Theme.ofValue?, Theme.ofFields?, hfields, hid, hname, hdisplay, hdescription,
      hcategory, hcolors, hstyling, hsystem, hdefault, hauthor, hversion, Option.bind_eq_bind,
      Option.bind_some]
    rfl
  ne_null := nofun

/-! ## Variations and assignments -/

theorem Variation.decodes {v : Variation} (h : v.createdAt.IsValid) :
    Decodes Variation.ofValue? v.toValue v where
  decode_eq := by
    obtain ⟨f, hf⟩ : ∃ f, f = [("id", .str v.id), ("parent_theme_id", .str v.parentId),
        ("name", .str v.name), ("display_name", .str v.displayName)] ++
        given? "page_id" .str v.pageId ++ given? "colors" .ofTexts v.colors ++
        v.styling.givenFields ++ [("variation_depth", Value.ofNat v.depth.toNat),
          ("lineage_path", .arr (v.lineage.map .str)), ("created_at", .str v.createdAt.toText)] :=
      ⟨_, rfl⟩
    have hwritten : Written f (["id", "parent_theme_id", "name", "display_name"] ++ ["page_id"] ++
        ["colors"] ++ Styling.fieldNames ++ ["variation_depth", "lineage_path", "created_at"]) := by
      rw [hf]
      exact ((((written_self _).append (written_given? _ _ _)).append (written_given? _ _ _)).append
        v.styling.written).append (written_self _)
    have hfields : fields? (["id", "parent_theme_id", "name", "display_name", "page_id",
        "colors"] ++ Styling.fieldNames ++ ["variation_depth", "lineage_path", "created_at"])
        v.toValue = some f := hf ▸ hwritten.fields?_eq (by decide)
    simp only [Styling.givenFields] at hf
    have hid : required f "id" text = some v.id :=
      required_eq (by simp [hf]) (decodes_text v.id)
    have hparent : required f "parent_theme_id" text = some v.parentId :=
      required_eq (by simp [hf, List.lookup_cons]) (decodes_text v.parentId)
    have hname : required f "name" text = some v.name :=
      required_eq (by simp [hf, List.lookup_cons]) (decodes_text v.name)
    have hdisplay : required f "display_name" text = some v.displayName :=
      required_eq (by simp [hf, List.lookup_cons]) (decodes_text v.displayName)
    have hpage : optional f "page_id" text = some v.pageId :=
      optional_eq (by simp [hf, List.lookup_cons, List.lookup_append]) fun s _ => decodes_text s
    have hcolors : optional f "colors" stylesOfValue? = some v.colors :=
      optional_eq (by simp [hf, List.lookup_cons, List.lookup_append]) fun s _ => decodes_styles s
    have hstyling : Styling.ofFields? f = some v.styling :=
      v.styling.ofFields?_eq (by simp [hf, List.lookup_cons, List.lookup_append])
        (by simp [hf, List.lookup_cons, List.lookup_append])
        (by simp [hf, List.lookup_cons, List.lookup_append])
        (by simp [hf, List.lookup_cons, List.lookup_append])
    have hdepth : required f "variation_depth" word32 = some v.depth :=
      required_eq (by simp [hf, List.lookup_cons, List.lookup_append]) (decodes_word32 v.depth)
    have hlineage : withDefault f "lineage_path" (list text) [] = some v.lineage :=
      withDefault_eq (by simp [hf, List.lookup_cons, List.lookup_append])
        (decodes_list fun s _ => decodes_text s)
    have hcreated : required f "created_at" instant = some v.createdAt :=
      required_eq (by simp [hf, List.lookup_cons, List.lookup_append]) (decodes_instant h)
    simp only [Variation.ofValue?, hfields, hid, hparent, hname, hdisplay, hpage, hcolors, hstyling,
      hdepth, hlineage, hcreated, Option.bind_eq_bind, Option.bind_some]
    rfl
  ne_null := nofun

theorem Assignment.decodes (a : Assignment) : Decodes Assignment.ofValue? a.toValue a where
  decode_eq := by
    obtain ⟨f, hf⟩ : ∃ f, f =
        [("page_id", .str a.pageId), ("theme_id", .str a.target.themeId)] ++
        given? "theme_variation_id" .str a.target.variationId ++
        [("is_variation", .bool a.target.isVariation)] := ⟨_, rfl⟩
    have hwritten : Written f (["page_id", "theme_id"] ++ ["theme_variation_id"] ++
        ["is_variation"]) := by
      rw [hf]
      exact ((written_self _).append (written_given? _ _ _)).append (written_self _)
    have hfields : fields? ["page_id", "theme_id", "theme_variation_id", "is_variation"] a.toValue =
        some f := hf ▸ hwritten.fields?_eq (by decide)
    have hpage : required f "page_id" text = some a.pageId :=
      required_eq (by simp [hf]) (decodes_text a.pageId)
    have htheme : required f "theme_id" text = some a.target.themeId :=
      required_eq (by simp [hf, List.lookup_cons]) (decodes_text a.target.themeId)
    have hvariation : optional f "theme_variation_id" text = some a.target.variationId :=
      optional_eq (by simp [hf, List.lookup_cons, List.lookup_append]) fun s _ => decodes_text s
    have hflag : withDefault f "is_variation" flag false = some a.target.isVariation :=
      withDefault_eq (by simp [hf, List.lookup_cons, List.lookup_append])
        (decodes_flag a.target.isVariation)
    simp only [Assignment.ofValue?, hfields, hpage, htheme, hvariation, hflag, Option.bind_eq_bind,
      Option.bind_some]
    rfl
  ne_null := nofun

/-! ## Snapshots -/

/-- **A snapshot is read again.** -/
theorem StoreSnapshot.ofValue?_toValue {s : StoreSnapshot}
    (h : ∀ v ∈ s.variations, v.createdAt.IsValid) : ofValue? s.toValue = some s := by
  obtain ⟨f, hf⟩ : ∃ f, f = [("themes", Value.arr (s.themes.map Theme.toValue)),
      ("variations", .arr (s.variations.map Variation.toValue)),
      ("assignments", .arr (s.assignments.map Assignment.toValue))] := ⟨_, rfl⟩
  have hwritten : Written f ["themes", "variations", "assignments"] := hf ▸ written_self _
  have hfields : fields? ["themes", "variations", "assignments"] s.toValue = some f :=
    hf ▸ hwritten.fields?_eq (by decide)
  have hthemes : withDefault f "themes" (list Theme.ofValue?) [] = some s.themes :=
    withDefault_eq (by simp [hf]) (decodes_list fun t _ => t.decodes)
  have hvariations : withDefault f "variations" (list Variation.ofValue?) [] = some s.variations :=
    withDefault_eq (by simp [hf, List.lookup_cons])
      (decodes_list fun v hv => Variation.decodes (h v hv))
  have hassignments : withDefault f "assignments" (list Assignment.ofValue?) [] =
      some s.assignments :=
    withDefault_eq (by simp [hf, List.lookup_cons]) (decodes_list fun a _ => a.decodes)
  simp only [ofValue?, hfields, hthemes, hvariations, hassignments, Option.bind_eq_bind,
    Option.bind_some]
  rfl

/-! ## Times that were read -/

theorem mem_of_mapM {α β : Type} {f : α → Option β} {xs : List α} {ys : List β}
    (h : xs.mapM f = some ys) : ∀ y ∈ ys, ∃ x ∈ xs, f x = some y := by
  induction xs generalizing ys with
  | nil =>
    cases h
    exact nofun
  | cons x xs ih =>
    rw [List.mapM_cons] at h
    obtain ⟨y, hy, h⟩ := Option.bind_eq_some_iff.1 h
    obtain ⟨zs, hzs, h⟩ := Option.bind_eq_some_iff.1 h
    cases h
    intro z hz
    rcases List.mem_cons.1 hz with rfl | hz
    · exact ⟨x, List.mem_cons_self, hy⟩
    · obtain ⟨w, hw, hfw⟩ := ih hzs z hz
      exact ⟨w, List.mem_cons_of_mem x hw, hfw⟩

theorem isValid_of_instant {v : Value} {t : Instant} (h : instant v = some t) : t.IsValid := by
  obtain ⟨s, -, hs⟩ := Option.bind_eq_some_iff.1 h
  exact Instant.isValid_of_ofText? hs

theorem Variation.isValid_of_ofValue? {x : Value} {v : Variation} (h : ofValue? x = some v) :
    v.createdAt.IsValid := by
  simp only [ofValue?, Option.bind_eq_bind, Option.bind_eq_some_iff] at h
  obtain ⟨f, -, id, -, parentId, -, name, -, displayName, -, pageId, -, colors, -, styling, -,
    depth, -, lineage, -, createdAt, hcreated, heq⟩ := h
  cases heq
  obtain ⟨x, -, hx⟩ := Option.bind_eq_some_iff.1 hcreated
  exact isValid_of_instant hx

/-- **The variations of a snapshot that was read** were made at times that can be written. -/
theorem StoreSnapshot.isValid_of_ofValue? {x : Value} {s : StoreSnapshot}
    (h : ofValue? x = some s) : ∀ v ∈ s.variations, v.createdAt.IsValid := by
  simp only [ofValue?, Option.bind_eq_bind, Option.bind_eq_some_iff] at h
  obtain ⟨f, -, themes, -, variations, hvariations, assignments, -, heq⟩ := h
  cases heq
  intro v hv
  simp only [withDefault] at hvariations
  split at hvariations
  · cases hvariations
    cases hv
  · rename_i y hy
    unfold list at hvariations
    split at hvariations
    · obtain ⟨z, -, hz⟩ := mem_of_mapM hvariations v hv
      exact Variation.isValid_of_ofValue? hz
    · cases hvariations

end ThemedPages
