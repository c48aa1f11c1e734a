import ThemedPages.Component.Registry
import ThemedPages.Json.Writer

/-!
# Probes

Component types for trying out pages: one that shows all that it is given, and one that always
fails.
-/

namespace ThemedPages.Probe

/-- Show a label and all that a component is given, as it stands. -/
def echo (label : String) : ComponentType := fun props ctx =>
  .ok <| "[" ++ "|".intercalate [label, ctx.page, ctx.component,
    (ctx.theme.map ResolvedTheme.id).getD "-", Json.write (.ofTable props)] ++ "]"

/-- Fail. -/
def failing (failure : Failure) : ComponentType := fun _ _ => .error failure

end ThemedPages.Probe
