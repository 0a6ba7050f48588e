import Phrasebook.Text.Basic

/-!
# Hosts

What a program takes from the machine that it runs on. Readers and displays follow nested values on a
stack, and how deep they get before it is used up depends on the machine and on what is on the stack
already. The names of languages come from a database of locales.

The memory of a host is not limited, and neither is the stack for anything that has no depth here.
-/

namespace Phrasebook

/-- What a program takes from the machine that it runs on. -/
class Host where
  /-- How deep the arrays and objects of a JSON text may be nested. -/
  jsonDepth : Nat
  /-- How much nesting of arrays and inline tables the reader of settings files follows. -/
  tomlDepth : Nat
  /-- How much of that one array takes. -/
  tomlArrayDepth : Nat
  /-- How much of that one inline table takes. -/
  tomlTableDepth : Nat
  /-- How many levels a value may have that a message shows in the place of a key. -/
  keyDepth : Nat
  /-- How many levels a value may have that a message shows in the place of a setting. -/
  settingDepth : Nat
  /-- The name that the language of a locale has for itself, or why the locale is not known. The code of
  the locale has underscores between its parts. -/
  localeName : Text → Except Text Text
  /-- A key of a JSON text is two levels below the text, and its display needs one level for what is in
  the innermost brackets. So what is too deep for the display is too deep for the reader. -/
  jsonDepth_le : jsonDepth ≤ keyDepth + 1

/-- A host with a stack of the usual size that knows no locale. -/
@[reducible]
def Host.plain : Host where
  jsonDepth := 1000
  tomlDepth := 975
  tomlArrayDepth := 2
  tomlTableDepth := 3
  keyDepth := 1000
  settingDepth := 975
  localeName _ := .error "unknown locale"
  jsonDepth_le := by decide

namespace Host.Plain

/-- The plain host, taken where this namespace is open. -/
scoped instance host : Host := .plain

end Host.Plain

end Phrasebook
