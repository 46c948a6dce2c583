import ResponsiveStyles.Config.Basic

/-!
# Errors

Compiling never fails. Errors arise where texts come in: a list of breakpoints, a map of styles, a
configuration, a file.
-/
namespace ResponsiveStyles

inductive InputError where
  | breakpoints (cause : BreakpointError)
  | styleMap
  | configText
  | config (cause : ConfigFault)
  | file

namespace InputError

def isRecoverable : InputError → Bool
  | .breakpoints _ => true
  | .styleMap => true
  | .configText => false
  | .config _ => false
  | .file => false

/-- The wording of an error, where it does not come from the reader of a format. -/
def message? : InputError → Option Text
  | .breakpoints .notJson => none
  | .breakpoints cause => some ("Breakpoint definition error: ".toList ++ cause.message)
  | .config cause => some ("Invalid configuration: ".toList ++ cause.message)
  | .styleMap => none
  | .configText => none
  | .file => none

end InputError

end ResponsiveStyles
