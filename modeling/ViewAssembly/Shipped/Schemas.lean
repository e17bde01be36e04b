import ViewAssembly.Schema.Library

/-!
# Shipped model schemas

The schemas that come with the library: persons, and the countries that they belong to.
-/

namespace ViewAssembly.Shipped

private def words (dhivehi english : String) : Option LocalizedText :=
  some (.perLanguage [("dv", dhivehi), ("en", english)])

private def dvEn (dhivehi english : String) : Value :=
  .obj [("dv", .str dhivehi), ("en", .str english)]

def country : ModelSchema where
  model := "Country"
  searchable := ["name_eng"]
  columns := [
    ("id", {
      hidden := true, label := words "އައިޑީ" "Id", type := .number, displayType := some .text,
      formField := false, sortable := true }),
    ("name_eng", {
      label := words "ޤައުމު" "Country", displayType := some .text, inputType := some .textField,
      sortable := true, lang := some ["en"], relationLabel := words "ޤައުމު" "Country" }),
    ("name_div", {
      label := words "ޤައުމު" "Country", displayType := some .text, inputType := some .textField,
      sortable := true, lang := some ["dv"], relationLabel := words "ޤައުމު" "Country" }),
    ("code", {
      label := words "ކޯޑް" "Code", displayType := some .text, inputType := some .textField })]

def person : ModelSchema where
  model := "Person"
  searchable := ["id", "first_name_eng"]
  relations := [("country", ⟨"Country", some ["name_eng", "name_div"]⟩)]
  columns := [
    ("full_name", {
      label := words "ނަން" "Full Name", displayType := some .text, formField := false,
      lang := some ["en", "dv"] }),
    ("id", {
      hidden := true, label := words "އައިޑީ" "Id", type := .number, displayType := some .text,
      inputType := some .textField, sortable := true, lang := some ["en", "dv"],
      extras := [
        ("fieldComponent", .str "textInput"),
        ("validationRule", .str "required|integer|unique:people,id")] }),
    ("first_name_eng", {
      label := words "ފުރަތަމަ ނަން" "First Name", displayType := some .text,
      inputType := some .textField, sortable := true, lang := some ["en"],
      extras := [
        ("fieldComponent", .str "textInput"),
        ("validationRule", .str "required|string|max:255")] }),
    ("middle_name_eng", {
      label := words "މެދު ނަން" "Middle Name", displayType := some .text,
      inputType := some .textField, sortable := true, lang := some ["en"],
      extras := [
        ("fieldComponent", .str "textInput"),
        ("validationRule", .str "required|string|max:255")] }),
    ("last_name_eng", {
      label := words "ފަހު ނަން" "Last Name", displayType := some .text,
      inputType := some .textField, formField := false, sortable := true, lang := some ["en"],
      extras := [
        ("fieldComponent", .str "textInput"),
        ("validationRule", .str "required|string|max:255")] }),
    ("first_name_div", {
      label := words "ފުރަތަމަ ނަން" "First Name", displayType := some .text,
      inputType := some .textField, sortable := true, lang := some ["dv"],
      extras := [
        ("fieldComponent", .str "textInput"),
        ("validationRule", .str "required|string|max:255")] }),
    ("middle_name_div", {
      label := words "މެދު ނަން" "Middle Name", displayType := some .text,
      inputType := some .textField, sortable := true, lang := some ["dv"],
      extras := [
        ("fieldComponent", .str "textInput"),
        ("validationRule", .str "required|string|max:255")] }),
    ("last_name_div", {
      label := words "ފަހު ނަން" "Last Name", displayType := some .text,
      inputType := some .textField, sortable := true, lang := some ["dv"],
      extras := [
        ("fieldComponent", .str "textInput"),
        ("validationRule", .str "required|string|max:255")] }),
    ("date_of_birth", {
      label := words "އުފަން ދުވަސް" "Date of Birth", type := .date, displayType := some .date,
      inputType := some .datepicker, sortable := true, lang := some ["en", "dv"] }),
    ("date_of_death", {
      label := words "ނިޔާވި ދުވަސް" "Date of Death", type := .date, displayType := some .date,
      inputType := some .datepicker, sortable := true, lang := some ["en", "dv"] }),
    ("gender", {
      label := words "ޖިންސު" "Gender", displayType := some .chip, inputType := some .select,
      inlineEditable := some true, lang := some ["en", "dv"],
      chip := some [
        ("M", .obj [("color", .str "primary")]),
        ("F", .obj [("color", .str "success")])],
      filterable := some (.config [
        ("type", .str "select"),
        ("label", dvEn "ޖިންސު" "Gender"),
        ("mode", .str "self"),
        ("items", .arr [
            .obj [
              ("itemTitleDv", .str "-ނެތް-"),
              ("itemTitleEn", .str "-empty-"),
              ("itemValue", .str "")],
            .obj [
              ("itemTitleDv", .str "ފިރިހެން"),
              ("itemTitleEn", .str "Male"),
              ("itemValue", .str "M")],
            .obj [
              ("itemTitleDv", .str "އަންހެނެ"),
              ("itemTitleEn", .str "Female"),
              ("itemValue", .str "F")]]),
        ("itemTitle", dvEn "itemTitleDv" "itemTitleEn"),
        ("itemValue", .str "itemValue")]),
      displayProps := some [
        ("M", .obj [
          ("label", .str "Male"),
          ("color", .str "primary"),
          ("prependIcon", .str "user")]),
        ("F", .obj [
          ("label", .str "Female"),
          ("color", .str "success"),
          ("prependIcon", .str "users")])] }),
    ("contact", {
      label := words "ގުޅޭނެ ނަންބަރު" "Contact", type := .json, displayType := some .text,
      inputType := some .textField, lang := some ["en", "dv"] }),
    ("father_name", {
      label := words "ބައްޕަގެ ނަން" "Fathers Name", displayType := some .text,
      inputType := some .textField, lang := some ["dv"] }),
    ("country_id", {
      hidden := true, label := words "ޤައުމުގެ އައިޑީ" "Country ID", type := .number,
      displayType := some .text, inputType := some .select, lang := some ["en", "dv"],
      filterable := some (.config [
        ("type", .str "select"),
        ("multiple", .bool true),
        ("label", dvEn "ޤައުމު" "Country"),
        ("mode", .str "relation"),
        ("relationship", .str "country"),
        ("itemTitle", dvEn "name_div" "name_eng"),
        ("itemValue", .str "id"),
        ("value", .str "country_id")]) }),
    ("police_pid", {
      label := words "ޕޮލިސް ޕީއައިޑީ" "Police PID", type := .number, displayType := some .text,
      inputType := some .numberField, lang := some ["en", "dv"] }),
    ("is_in_custody", {
      label := words "ހުރީ ހައްޔަރުގަ" "Is in custody", type := .boolean,
      displayType := some .checkbox, inputType := some .checkbox, sortable := true,
      lang := some ["en", "dv"],
      displayProps := some [("label", .str " "), ("color", .str "primary")] }),
    ("created_at", {
      hidden := true, label := words "އުފެއްދި ތާރީޚް" "Created At", type := .datetime,
      displayType := some .text, formField := false, lang := some ["en", "dv"] }),
    ("updated_at", {
      hidden := true, label := words "އަޕްޑޭޓްކުރި ތާރީޚް" "Updated At", type := .datetime,
      displayType := some .text, formField := false, lang := some ["en", "dv"] })]

/-- The library of the shipped schemas. -/
def schemas : SchemaLibrary := [country, person].foldl SchemaLibrary.add []

end ViewAssembly.Shipped
