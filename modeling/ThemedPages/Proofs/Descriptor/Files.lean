import ThemedPages.Proofs.Descriptor.Records
import ThemedPages.Proofs.Files.Written
import ThemedPages.Proofs.Route.Registry

/-!
# Written descriptors

A descriptor is written with the time of its last change, to a temporary file that then takes the
place of the old one. What is found there afterwards is its text, and the text is read as the
descriptor.

**Theorem (`written_descriptor_reads`).** A descriptor that was written is read as it was written,
and it loads just when it breaks no rule.

The YAML library is taken to read its own text: the nodes that were written are found again, and as
they stand they are the value that was written.
-/

namespace ThemedPages.Descriptor

variable {d : Descriptor} {files files' : FileTree} {path temporary content : String}
  {now : Instant} {disk : DiskTroubles}

/-! ## The file -/

theorem replaceFile_ok (h : replaceFile files path temporary content disk = (.ok (), files')) :
    files'.find path = .ok (.text content) := by
  unfold replaceFile at h
  split at h
  · cases h
  · rename_i written hwrite
    split at h
    · cases h
    · rename_i replaced hrename
      cases h
      exact FileTree.find_rename hrename (FileTree.find_write hwrite)

/-! ## The text -/

/-- The time that a descriptor was written at can be written. -/
theorem hasText_stamped (hnow : now.IsValid) : ∀ m ∈ (d.stamped now).info, m.HasText := by
  intro m hm t ht
  cases hm
  cases ht
  exact hnow

/-- **The text of a descriptor is read as the descriptor.** -/
theorem ofYaml?_toYaml (hdata : ∀ c ∈ d.componentList, c.Canonical)
    (hinfo : ∀ m ∈ d.info, m.HasText) (hyaml : Yaml.ReadsBack d.toValue) :
    ofYaml? d.toYaml = some d := by
  rw [ofYaml?, toYaml, hyaml.read?_eq (guided hdata), Option.bind_some]
  exact (decodes hinfo).decode_eq

theorem ofFile_of_find (hfind : files.find path = .ok (.text content))
    (hread : ofYaml? content = some d) : ofFile files path = .ok d := by
  simp only [ofFile, FileTree.read_of_find hfind, ofYaml, hread]

/-! ## Written descriptors -/

/-- No rule is about the notes of a descriptor. -/
theorem validate_stamped (d : Descriptor) (now : Instant) :
    (d.stamped now).validate = d.validate := rfl

/-- **Written descriptors read back.** -/
theorem written_descriptor_reads {name : TemporaryName}
    (hwrite : d.toFile files path name now disk = (.ok (), files'))
    (hdata : ∀ c ∈ d.componentList, c.Canonical) (hnow : now.IsValid)
    (hyaml : Yaml.ReadsBack (d.stamped now).toValue) :
    ofFile files' path = .ok (d.stamped now) ∧
      d.stamped now = { d with info := some { d.info.getD {} with lastModified := some now } } ∧
      ((∃ loaded, load files' path = .ok loaded) ↔ d.validate.issues = []) := by
  have hread : ofFile files' path = .ok (d.stamped now) :=
    ofFile_of_find (replaceFile_ok hwrite) (ofYaml?_toYaml hdata (hasText_stamped hnow) hyaml)
  refine ⟨hread, rfl, ?_⟩
  rw [← validate_stamped d now]
  constructor
  · intro ⟨loaded, hload⟩
    obtain ⟨hloaded, hissues⟩ := (load_eq_ok_iff files' path loaded).1 hload
    cases hread.symm.trans hloaded
    exact hissues
  · intro hissues
    exact ⟨_, (load_eq_ok_iff files' path _).2 ⟨hread, hissues⟩⟩

/-- A page with a text on it. -/
def greeting : Descriptor where
  page := some ⟨"Hi", "/hi", ""⟩
  layout := some {}
  components := some
    [{ id := "a", typeName := "text", position := { col := 1, row := 1 },
       props := Table.empty.insert "text" (.str "Hi") }]

theorem greeting_reads :
    ∃ files', greeting.toFile {} "page.yaml" ⟨1, 0⟩ ⟨0, 0⟩ = (.ok (), files') ∧
      ofFile files' "page.yaml" = .ok (greeting.stamped ⟨0, 0⟩) ∧
      ∃ loaded, load files' "page.yaml" = .ok loaded := by
  obtain ⟨files', hwrite⟩ : ∃ files',
      greeting.toFile {} "page.yaml" ⟨1, 0⟩ ⟨0, 0⟩ = (.ok (), files') := by
    refine ⟨(greeting.toFile {} "page.yaml" ⟨1, 0⟩ ⟨0, 0⟩).2, Prod.ext ?_ rfl⟩
    decide +kernel
  have hdata : ∀ c ∈ greeting.componentList, c.Canonical := by
    intro c hc
    cases List.mem_singleton.1 hc
    refine { props := fun r hr => ?_, style := by nofun }
    cases List.mem_singleton.1 hr
    exact .str "Hi"
  have hnodes : Yaml.document? (greeting.stamped ⟨0, 0⟩).toYaml =
      some ⟨Yaml.nodeOf (greeting.stamped ⟨0, 0⟩).toValue, [], 46⟩ := by decide +kernel
  have hvalue : Yaml.read? .whole (greeting.stamped ⟨0, 0⟩).toYaml =
      some (greeting.stamped ⟨0, 0⟩).toValue := by
    rw [Yaml.read?_of_document hnodes]
    decide +kernel
  obtain ⟨hread, -, hload⟩ := written_descriptor_reads hwrite hdata
    { date := by decide, nanos := by decide } { nodes := ⟨46, hnodes⟩, value := hvalue }
  exact ⟨files', hwrite, hread, hload.2 (by decide +kernel)⟩

end ThemedPages.Descriptor
