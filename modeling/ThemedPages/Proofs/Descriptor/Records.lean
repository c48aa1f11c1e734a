import ThemedPages.Descriptor.Codec
import ThemedPages.Proofs.Document.Fields
import ThemedPages.Proofs.Yaml.Guided

/-!
# Records of a descriptor

Every part of a descriptor is read again from the value that it is written as, and the shape of a
descriptor is made for these values. Fields that are left out when there is nothing to say are read
as what they are by default, and that is what they were.

**Theorem (`Descriptor.decodes`).** A descriptor is read again from its value.

**Theorem (`Descriptor.guided`).** The shape of a descriptor is made for the value of one whose
free-form data is canonical.
-/

namespace ThemedPages

open Record Yaml

/-! ## Page, layout, navigation -/

theorem PageInfo.decodes (p : PageInfo) : Decodes PageInfo.ofValue? p.toValue p where
  decode_eq := by
    obtain ⟨f, hf⟩ : ∃ f, f = [("title", Value.str p.title), ("route", .str p.route),
        ("description", .str p.description)] := ⟨_, rfl⟩
    have hwritten : Written f ["title", "route", "description"] := hf ▸ written_self _
    have hfields : fields? ["title", "route", "description"] p.toValue = some f :=
      hf ▸ hwritten.fields?_eq (by decide)
    have htitle : required f "title" text = some p.title :=
      required_eq (by simp [hf]) (decodes_text p.title)
    have hroute : required f "route" text = some p.route :=
      required_eq (by simp [hf, List.lookup_cons]) (decodes_text p.route)
    have hdescription : withDefault f "description" text "" = some p.description :=
      withDefault_eq (by simp [hf, List.lookup_cons]) (decodes_text p.description)
    simp only [PageInfo.ofValue?, hfields, htitle, hroute, hdescription, Option.bind_eq_bind,
      Option.bind_some]
    rfl
  ne_null := nofun

theorem PageLayout.decodes (l : PageLayout) : Decodes PageLayout.ofValue? l.toValue l where
  decode_eq := by
    obtain ⟨f, hf⟩ : ∃ f, f = [("type", .str l.kind), ("columns", .ofNat l.columns.toNat)] ++
        given? "gap" .str l.gap ++ given? "padding" .str l.padding := ⟨_, rfl⟩
    have hwritten : Written f (["type", "columns"] ++ ["gap"] ++ ["padding"]) :=
      hf ▸ ((written_self _).append (written_given? _ _ _)).append (written_given? _ _ _)
    have hfields : fields? ["type", "columns", "gap", "padding"] l.toValue = some f :=
      hf ▸ hwritten.fields?_eq (by decide)
    have hkind : required f "type" text = some l.kind :=
      required_eq (by simp [hf]) (decodes_text l.kind)
    have hcolumns : withDefault f "columns" word32 12 = some l.columns :=
      withDefault_eq (by simp [hf, List.lookup_cons]) (decodes_word32 l.columns)
    have hgap : optional f "gap" text = some l.gap :=
      optional_eq (by simp [hf, List.lookup_cons, List.lookup_append]) fun s _ => decodes_text s
    have hpadding : optional f "padding" text = some l.padding :=
      optional_eq (by simp [hf, List.lookup_cons, List.lookup_append]) fun s _ => decodes_text s
    simp only [PageLayout.ofValue?, hfields, hkind, hcolumns, hgap, hpadding, Option.bind_eq_bind,
      Option.bind_some]
    rfl
  ne_null := nofun

theorem Navigation.decodes (n : Navigation) : Decodes Navigation.ofValue? n.toValue n where
  decode_eq := by
    obtain ⟨f, hf⟩ : ∃ f, f = [("showSidebar", .bool n.showSidebar)] ++
        given? "customHeader" .str n.customHeader ++ [("breadcrumbs", .bool n.breadcrumbs)] :=
      ⟨_, rfl⟩
    have hwritten : Written f (["showSidebar"] ++ ["customHeader"] ++ ["breadcrumbs"]) :=
      hf ▸ ((written_self _).append (written_given? _ _ _)).append (written_self _)
    have hfields : fields? ["showSidebar", "customHeader", "breadcrumbs"] n.toValue = some f :=
      hf ▸ hwritten.fields?_eq (by decide)
    have hsidebar : withDefault f "showSidebar" flag true = some n.showSidebar :=
      withDefault_eq (by simp [hf]) (decodes_flag n.showSidebar)
    have hheader : optional f "customHeader" text = some n.customHeader :=
      optional_eq (by simp [hf, List.lookup_cons, List.lookup_append]) fun s _ => decodes_text s
    have hbreadcrumbs : withDefault f "breadcrumbs" flag true = some n.breadcrumbs :=
      withDefault_eq (by simp [hf, List.lookup_cons, List.lookup_append])
        (decodes_flag n.breadcrumbs)
    simp only [Navigation.ofValue?, hfields, hsidebar, hheader, hbreadcrumbs, Option.bind_eq_bind,
      Option.bind_some]
    rfl
  ne_null := nofun

/-! ## Components -/

theorem Position.decodes (p : Position) : Decodes Position.ofValue? p.toValue p where
  decode_eq := by
    obtain ⟨f, hf⟩ : ∃ f, f = [("col", .ofNat p.col.toNat), ("row", .ofNat p.row.toNat),
        ("span", .ofNat p.span.toNat)] ++ given? "rowSpan" (fun n => .ofNat n.toNat) p.rowSpan ++
        given? "order" (fun i => .ofInt i.toInt) p.order := ⟨_, rfl⟩
    have hwritten : Written f (["col", "row", "span"] ++ ["rowSpan"] ++ ["order"]) :=
      hf ▸ ((written_self _).append (written_given? _ _ _)).append (written_given? _ _ _)
    have hfields : fields? ["col", "row", "span", "rowSpan", "order"] p.toValue = some f :=
      hf ▸ hwritten.fields?_eq (by decide)
    have hcol : required f "col" word32 = some p.col :=
      required_eq (by simp [hf]) (decodes_word32 p.col)
    have hrow : required f "row" word32 = some p.row :=
      required_eq (by simp [hf, List.lookup_cons]) (decodes_word32 p.row)
    have hspan : withDefault f "span" word32 1 = some p.span :=
      withDefault_eq (by simp [hf, List.lookup_cons]) (decodes_word32 p.span)
    have hrowSpan : optional f "rowSpan" word32 = some p.rowSpan :=
      optional_eq (by simp [hf, List.lookup_cons, List.lookup_append]) fun n _ => decodes_word32 n
    have horder : optional f "order" int64 = some p.order :=
      optional_eq (by simp [hf, List.lookup_cons, List.lookup_append]) fun i _ => decodes_int64 i
    simp only [Position.ofValue?, hfields, hcol, hrow, hspan, hrowSpan, horder, Option.bind_eq_bind,
      Option.bind_some]
    rfl
  ne_null := nofun

theorem Component.decodes (c : Component) : Decodes Component.ofValue? c.toValue c where
  decode_eq := by
    obtain ⟨f, hf⟩ : ∃ f, f = [("id", .str c.id), ("type", .str c.typeName),
        ("position", c.position.toValue), ("props", .ofTable c.props)] ++
        given? "style" .ofTable c.style := ⟨_, rfl⟩
    have hwritten : Written f (["id", "type", "position", "props"] ++ ["style"]) :=
      hf ▸ (written_self _).append (written_given? _ _ _)
    have hfields : fields? ["id", "type", "position", "props", "style"] c.toValue = some f :=
      hf ▸ hwritten.fields?_eq (by decide)
    have hid : required f "id" text = some c.id :=
      required_eq (by simp [hf]) (decodes_text c.id)
    have htype : required f "type" text = some c.typeName :=
      required_eq (by simp [hf, List.lookup_cons]) (decodes_text c.typeName)
    have hposition : required f "position" Position.ofValue? = some c.position :=
      required_eq (by simp [hf, List.lookup_cons]) c.position.decodes
    have hprops : withDefault f "props" object .empty = some c.props :=
      withDefault_eq (by simp [hf, List.lookup_cons]) (decodes_object c.props)
    have hstyle : optional f "style" object = some c.style :=
      optional_eq (by simp [hf, List.lookup_cons]) fun t _ => decodes_object t
    simp only [Component.ofValue?, hfields, hid, htype, hposition, hprops, hstyle,
      Option.bind_eq_bind, Option.bind_some]
    rfl
  ne_null := nofun

/-! ## Data sources and notes -/

theorem DataSource.decodes (s : DataSource) : Decodes DataSource.ofValue? s.toValue s where
  decode_eq := by
    obtain ⟨f, hf⟩ : ∃ f, f = [("name", .str s.name), ("type", .str s.kind)] ++
        given? "endpoint" .str s.endpoint ++ given? "method" .str s.method ++
        given? "refresh" (fun n => .ofNat n.toNat) s.refresh ++
        given? "transform" .str s.transform := ⟨_, rfl⟩
    have hwritten : Written f (["name", "type"] ++ ["endpoint"] ++ ["method"] ++ ["refresh"] ++
        ["transform"]) :=
      hf ▸ ((((written_self _).append (written_given? _ _ _)).append (written_given? _ _ _)).append
        (written_given? _ _ _)).append (written_given? _ _ _)
    have hfields : fields? ["name", "type", "endpoint", "method", "refresh", "transform"]
        s.toValue = some f := hf ▸ hwritten.fields?_eq (by decide)
    have hname : required f "name" text = some s.name :=
      required_eq (by simp [hf]) (decodes_text s.name)
    have hkind : required f "type" text = some s.kind :=
      required_eq (by simp [hf, List.lookup_cons]) (decodes_text s.kind)
    have hendpoint : optional f "endpoint" text = some s.endpoint :=
      optional_eq (by simp [hf, List.lookup_cons, List.lookup_append]) fun s _ => decodes_text s
    have hmethod : optional f "method" text = some s.method :=
      optional_eq (by simp [hf, List.lookup_cons, List.lookup_append]) fun s _ => decodes_text s
    have hrefresh : optional f "refresh" word64 = some s.refresh :=
      optional_eq (by simp [hf, List.lookup_cons, List.lookup_append]) fun n _ => decodes_word64 n
    have htransform : optional f "transform" text = some s.transform :=
      optional_eq (by simp [hf, List.lookup_cons, List.lookup_append]) fun s _ => decodes_text s
    simp only [DataSource.ofValue?, hfields, hname, hkind, hendpoint, hmethod, hrefresh, htransform,
      Option.bind_eq_bind, Option.bind_some]
    rfl
  ne_null := nofun

/-- The time of the last change, if there is one, has a text. -/
def DescriptorMeta.HasText (m : DescriptorMeta) : Prop := ∀ t ∈ m.lastModified, t.IsValid

theorem DescriptorMeta.decodes {m : DescriptorMeta} (h : m.HasText) :
    Decodes DescriptorMeta.ofValue? m.toValue m where
  decode_eq := by
    obtain ⟨f, hf⟩ : ∃ f, f = given? "author" .str m.author ++ given? "version" .str m.version ++
        given? "lastModified" (fun t => .str t.toText) m.lastModified ++
        nonEmpty "tags" .str m.tags := ⟨_, rfl⟩
    have hwritten : Written f (["author"] ++ ["version"] ++ ["lastModified"] ++ ["tags"]) :=
      hf ▸ (((written_given? _ _ _).append (written_given? _ _ _)).append
        (written_given? _ _ _)).append (written_nonEmpty _ _ _)
    have hfields : fields? ["author", "version", "lastModified", "tags"] m.toValue = some f :=
      hf ▸ hwritten.fields?_eq (by decide)
    have hauthor : optional f "author" text = some m.author :=
      optional_eq (by simp [hf, List.lookup_append]) fun s _ => decodes_text s
    have hversion : optional f "version" text = some m.version :=
      optional_eq (by simp [hf, List.lookup_append]) fun s _ => decodes_text s
    have hmodified : optional f "lastModified" instant = some m.lastModified :=
      optional_eq (by simp [hf, List.lookup_append]) fun t ht => decodes_instant (h t ht)
    have htags : withDefault f "tags" (list text) [] = some m.tags :=
      nonEmpty_eq (by simp [hf, List.lookup_append]) fun s _ => decodes_text s
    simp only [DescriptorMeta.ofValue?, hfields, hauthor, hversion, hmodified, htags,
      Option.bind_eq_bind, Option.bind_some]
    rfl
  ne_null := nofun

/-! ## Descriptors -/

/-- **A descriptor is read again.** -/
theorem Descriptor.decodes {d : Descriptor} (h : ∀ m ∈ d.info, m.HasText) :
    Decodes Descriptor.ofValue? d.toValue d where
  decode_eq := by
    obtain ⟨f, hf⟩ : ∃ f, f = given? "page" PageInfo.toValue d.page ++
        given? "layout" PageLayout.toValue d.layout ++
        given? "components" (fun cs => .arr (cs.map Component.toValue)) d.components ++
        given? "navigation" Navigation.toValue d.navigation ++
        nonEmpty "dataSources" DataSource.toValue d.dataSources ++
        given? "meta" DescriptorMeta.toValue d.info := ⟨_, rfl⟩
    have hwritten : Written f (["page"] ++ ["layout"] ++ ["components"] ++ ["navigation"] ++
        ["dataSources"] ++ ["meta"]) :=
      hf ▸ (((((written_given? _ _ _).append (written_given? _ _ _)).append
        (written_given? _ _ _)).append (written_given? _ _ _)).append
        (written_nonEmpty _ _ _)).append (written_given? _ _ _)
    have hfields : fields? ["page", "layout", "components", "navigation", "dataSources", "meta"]
        d.toValue = some f := hf ▸ hwritten.fields?_eq (by decide)
    have hpage : optional f "page" PageInfo.ofValue? = some d.page :=
      optional_eq (by simp [hf, List.lookup_append]) fun p _ => p.decodes
    have hlayout : optional f "layout" PageLayout.ofValue? = some d.layout :=
      optional_eq (by simp [hf, List.lookup_append]) fun l _ => l.decodes
    have hcomponents : optional f "components" (list Component.ofValue?) = some d.components :=
      optional_eq (by simp [hf, List.lookup_append]) fun cs _ =>
        decodes_list fun c _ => c.decodes
    have hnavigation : optional f "navigation" Navigation.ofValue? = some d.navigation :=
      optional_eq (by simp [hf, List.lookup_append]) fun n _ => n.decodes
    have hsources : withDefault f "dataSources" (list DataSource.ofValue?) [] =
        some d.dataSources :=
      nonEmpty_eq (by simp [hf, List.lookup_append]) fun s _ => s.decodes
    have hinfo : optional f "meta" DescriptorMeta.ofValue? = some d.info :=
      optional_eq (by simp [hf, List.lookup_append]) fun m hm => DescriptorMeta.decodes (h m hm)
    simp only [Descriptor.ofValue?, hfields, hpage, hlayout, hcomponents, hnavigation, hsources,
      hinfo, Option.bind_eq_bind, Option.bind_some]
    rfl
  ne_null := nofun

/-! ## Shapes -/

/-- The free-form data of a component is canonical. -/
structure Component.Canonical (c : Component) : Prop where
  props : ∀ r ∈ c.props.entries, r.2.Canonical
  style : ∀ t ∈ c.style, ∀ r ∈ t.entries, r.2.Canonical

theorem guided_texts (xs : List String) : Guided (.list .text) (.arr (xs.map .str)) := by
  refine guided_list fun v hv => ?_
  obtain ⟨s, -, rfl⟩ := List.mem_map.1 hv
  exact guided_text s

theorem PageInfo.guided (p : PageInfo) :
    Guided (.record [("title", .text), ("route", .text), ("description", .text)]) p.toValue := by
  refine guided_record ?_
  simp only [List.forall_mem_cons, List.not_mem_nil, IsEmpty.forall_iff, implies_true, and_true]
  exact ⟨guided_text p.title, guided_text p.route, guided_text p.description⟩

theorem PageLayout.guided (l : PageLayout) :
    Guided (.record [("type", .text), ("columns", .natural), ("gap", .optional .text),
      ("padding", .optional .text)]) l.toValue := by
  refine guided_record ?_
  simp only [List.forall_mem_append, List.forall_mem_cons, List.not_mem_nil, IsEmpty.forall_iff,
    implies_true, and_true]
  refine ⟨⟨⟨?_, ?_⟩, forall_mem_given? fun s _ => ?_⟩, forall_mem_given? fun s _ => ?_⟩
  · exact guided_text l.kind
  · exact guided_natural (Nat.lt_trans l.columns.toNat_lt_size (by decide))
  · exact guided_optional (guided_text s) nofun
  · exact guided_optional (guided_text s) nofun

theorem Navigation.guided (n : Navigation) :
    Guided (.record [("showSidebar", .flag), ("customHeader", .optional .text),
      ("breadcrumbs", .flag)]) n.toValue := by
  refine guided_record ?_
  simp only [List.forall_mem_append, List.forall_mem_cons, List.not_mem_nil, IsEmpty.forall_iff,
    implies_true, and_true]
  refine ⟨⟨?_, forall_mem_given? fun s _ => ?_⟩, ?_⟩
  · exact guided_flag n.showSidebar
  · exact guided_optional (guided_text s) nofun
  · exact guided_flag n.breadcrumbs

theorem Position.guided (p : Position) :
    Guided (.record [("col", .natural), ("row", .natural), ("span", .natural),
      ("rowSpan", .optional .natural), ("order", .optional .integer)]) p.toValue := by
  have hword (n : UInt32) : n.toNat < UInt64.size := Nat.lt_trans n.toNat_lt_size (by decide)
  refine guided_record ?_
  simp only [List.forall_mem_append, List.forall_mem_cons, List.not_mem_nil, IsEmpty.forall_iff,
    implies_true, and_true]
  refine ⟨⟨⟨?_, ?_, ?_⟩, forall_mem_given? fun n _ => ?_⟩, forall_mem_given? fun i _ => ?_⟩
  · exact guided_natural (hword p.col)
  · exact guided_natural (hword p.row)
  · exact guided_natural (hword p.span)
  · exact guided_optional (guided_natural (hword n)) nofun
  · exact guided_optional (guided_integer i) nofun

theorem Component.guided {c : Component} (h : c.Canonical) :
    Guided (.record [("id", .text), ("type", .text), ("position",
      .record [("col", .natural), ("row", .natural), ("span", .natural),
        ("rowSpan", .optional .natural), ("order", .optional .integer)]),
      ("props", .object), ("style", .optional .object)]) c.toValue := by
  refine guided_record ?_
  simp only [List.forall_mem_append, List.forall_mem_cons, List.not_mem_nil, IsEmpty.forall_iff,
    implies_true, and_true]
  refine ⟨⟨?_, ?_, ?_, ?_⟩, forall_mem_given? fun t ht => ?_⟩
  · exact guided_text c.id
  · exact guided_text c.typeName
  · exact c.position.guided
  · exact guided_object h.props
  · exact guided_optional (guided_object (h.style t ht)) nofun

theorem DataSource.guided (s : DataSource) :
    Guided (.record [("name", .text), ("type", .text), ("endpoint", .optional .text),
      ("method", .optional .text), ("refresh", .optional .natural),
      ("transform", .optional .text)]) s.toValue := by
  refine guided_record ?_
  simp only [List.forall_mem_append, List.forall_mem_cons, List.not_mem_nil, IsEmpty.forall_iff,
    implies_true, and_true]
  refine ⟨⟨⟨⟨⟨?_, ?_⟩, forall_mem_given? fun s _ => ?_⟩, forall_mem_given? fun s _ => ?_⟩,
    forall_mem_given? fun n _ => ?_⟩, forall_mem_given? fun s _ => ?_⟩
  · exact guided_text s.name
  · exact guided_text s.kind
  · exact guided_optional (guided_text s) nofun
  · exact guided_optional (guided_text s) nofun
  · exact guided_optional (guided_natural n.toNat_lt_size) nofun
  · exact guided_optional (guided_text s) nofun

theorem DescriptorMeta.guided (m : DescriptorMeta) :
    Guided (.record [("author", .optional .text), ("version", .optional .text),
      ("lastModified", .optional .text), ("tags", .list .text)]) m.toValue := by
  refine guided_record ?_
  simp only [List.forall_mem_append]
  refine ⟨⟨⟨forall_mem_given? fun s _ => ?_, forall_mem_given? fun s _ => ?_⟩,
    forall_mem_given? fun t _ => ?_⟩, forall_mem_nonEmpty ?_⟩
  · exact guided_optional (guided_text s) nofun
  · exact guided_optional (guided_text s) nofun
  · exact guided_optional (guided_text t.toText) nofun
  · exact guided_texts m.tags

/-- **The shape of a descriptor is made for descriptors.** -/
theorem Descriptor.guided {d : Descriptor} (h : ∀ c ∈ d.componentList, c.Canonical) :
    Guided Descriptor.shape d.toValue := by
  refine guided_record ?_
  simp only [List.forall_mem_append]
  refine ⟨⟨⟨⟨⟨forall_mem_given? fun p _ => ?_, forall_mem_given? fun l _ => ?_⟩,
    forall_mem_given? fun cs hcs => ?_⟩, forall_mem_given? fun n _ => ?_⟩,
    forall_mem_nonEmpty ?_⟩, forall_mem_given? fun m _ => ?_⟩
  · exact guided_optional p.guided nofun
  · exact guided_optional l.guided nofun
  · refine guided_optional (guided_list fun v hv => ?_) nofun
    obtain ⟨c, hc, rfl⟩ := List.mem_map.1 hv
    exact Component.guided (h c (by rw [componentList, hcs]; exact hc))
  · exact guided_optional n.guided nofun
  · refine guided_list fun v hv => ?_
    obtain ⟨s, -, rfl⟩ := List.mem_map.1 hv
    exact s.guided
  · exact guided_optional m.guided nofun

end ThemedPages
