import ViewAssembly.Folder

/-!
# Shipped functions

The script that comes with the library, with the functions that the shipped view config refers to.
-/

namespace ViewAssembly.Shipped

private def scriptLines : List String := [
  "// Shared client-side handlers referenced from view configs as",
  "// \x7b\"file\": \"misc.js\", \"function\": \"<name>\"\x7d.",
  "",
  "function formatFullName(row) \x7b",
  "  const parts = [row.first_name_eng, row.middle_name_eng, row.last_name_eng];",
  "  return parts.filter((p) => p && p.trim() !== \"\").join(\" \");",
  "\x7d",
  "",
  "function onGenderChange(value, form) \x7b",
  "  if (value === \"F\") \x7b",
  "    form.setFieldProps(\"guardian\", \x7b required: false \x7d);",
  "  \x7d else \x7b",
  "    form.setFieldProps(\"guardian\", \x7b required: true, "
    ++ "hint: \"Required when gender is not 'F' \x7b\x7d\" \x7d);",
  "  \x7d",
  "  return value;",
  "\x7d",
  "",
  "const highlightCustody = function (row) \x7b",
  "  /* braces in comments are ignored: \x7b */",
  "  return row.is_in_custody ? \x7b color: \"error\", icon: \"mdi-lock\" \x7d : \x7b\x7d;",
  "\x7d;",
  "",
  "const toUpper = (value) => \x7b",
  "  return typeof value === \"string\" ? value.toUpperCase() : value;",
  "\x7d;",
  "",
  "function confirmDelete(item) \x7b",
  "  return window.confirm(`Delete $\x7bitem.full_name\x7d? \x7bthis cannot be undone\x7d`);",
  "\x7d"]

/-- The folder of the shipped scripts. -/
def functions : Folder :=
  .ofFiles [("misc.js", String.join (scriptLines.map (· ++ "\n")))]

end ViewAssembly.Shipped
