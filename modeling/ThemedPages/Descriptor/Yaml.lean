import ThemedPages.Descriptor.Codec
import ThemedPages.Failure
import ThemedPages.Yaml.Reader
import ThemedPages.Yaml.Writer

/-!
# Descriptors as YAML text

The text form of descriptors.
-/

namespace ThemedPages.Descriptor

/-- The descriptor that a text gives, if it gives one. -/
def ofYaml? (text : String) : Option Descriptor :=
  (Yaml.read? Descriptor.shape text).bind Descriptor.ofValue?

/-- The descriptor that a text gives. -/
def ofYaml (text : String) : Except Failure Descriptor :=
  match ofYaml? text with
  | some d => .ok d
  | none => .error (.parse "malformed descriptor YAML: the text is not a page descriptor")

/-- The text of a descriptor. -/
def toYaml (d : Descriptor) : String := Yaml.write d.toValue

end ThemedPages.Descriptor
