import AcpiTables.Field

/-!
# Building a field step by step

A field may be built from a bare one by a chain of modifiers.  A chain may choose
the way of showing the value at most once; keeping the place and attaching a check
may be repeated, and the last check attached is the one that runs.  Attaching a
check without an argument leaves an argument attached earlier in place.
-/

namespace AcpiTables

set_option autoImplicit false

namespace Field

/-- One step in building a field. -/
inductive Modifier where
  | format (format : NumberFormat)
  | renderer (renderer : Renderer)
  /-- Show the value by a renderer that receives a format. -/
  | renderWith (renderer : Renderer) (format : Option NumberFormat)
  /-- Keep the place of the field for the caller. -/
  | capture
  | validate (validator : Validator)
  /-- Attach a check together with its argument. -/
  | validateWith (validator : Validator) (argument : Argument)

/-- Why a chain of modifiers builds no field. -/
inductive BuildFault where
  /-- The way of showing the value was chosen twice. -/
  | renderedTwice
  deriving DecidableEq, Repr

def BuildFault.message : BuildFault → String
  | .renderedTwice => "field already has a format or renderer"

/-- Chooses how the value is shown, unless that was chosen before. -/
def showBy (render : Render) (field : Field) : Except BuildFault Field :=
  match field.render with
  | .label => .ok { field with render := render }
  | _ => .error .renderedTwice

/-- Applies one modifier. -/
def modify (field : Field) : Modifier → Except BuildFault Field
  | .format format => field.showBy (.integer format)
  | .renderer renderer => field.showBy (.custom renderer none)
  | .renderWith renderer format => field.showBy (.custom renderer format)
  | .capture => .ok field.kept
  | .validate validator => .ok { field with validator := some validator }
  | .validateWith validator argument =>
      .ok { field with validator := some validator, argument := some argument }

/-- Applies a chain of modifiers in order. -/
def build (field : Field) : List Modifier → Except BuildFault Field
  | [] => .ok field
  | modifier :: rest =>
      match field.modify modifier with
      | .ok modified => build modified rest
      | .error fault => .error fault

end Field

end AcpiTables
