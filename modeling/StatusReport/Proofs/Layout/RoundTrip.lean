import StatusReport.Directive
import StatusReport.Layout.Codec

/-! # Layouts and directives are read as they were written

Writing leaves out what is not declared and empty lists of inner fields; reading takes what is
missing for just that. Every entry is found under its name whatever order the names are sorted in,
and fields inside fields are read back one by one.

* `Data.fields?_ofEntries`: what a written structure holds for each of its fields.
* `LayoutField.ofData?_toData`, `LayoutField.itemsOfData?_toData`: layout fields, in step with the
  fields inside them.
* `read_as_written`: layouts and directives.
-/

namespace StatusReport

namespace Data

theorem fields?_ofEntries (surplus : Surplus) (names : List String)
    (entries : List (String × Data)) :
    (ofEntries entries).fields? surplus names =
      some (names.map fun name => Entries.get? name entries.reverse) := by
  simp [ofEntries, fields?, Entries.get?_foldl_insert]

theorem text?_text (s : String) : text? (.text s) = some s := rfl

theorem optional_of_ne_null (read? : Data → Option α) {d : Data} (filled : d ≠ .null) :
    optional read? d = (read? d).map some := by
  cases d with
  | null => exact absurd rfl filled
  | bool | integer | real | text | list | table => rfl

/-- What may be missing is read back, whether it is missing or not. -/
theorem orElse_optional_map {read? : Data → Option α} {write : α → Data}
    (round : ∀ a, read? (write a) = some a) (filled : ∀ a, write a ≠ .null) (value : Option α) :
    orElse none (optional read?) (value.map write) = some value := by
  cases value with
  | none => rfl
  | some a => rw [Option.map_some, orElse, optional_of_ne_null read? (filled a), round, Option.map_some]

theorem listOf_map {read? : Data → Option α} {write : α → Data}
    (round : ∀ a, read? (write a) = some a) (items : List α) :
    listOf read? (.list (items.map write)) = some items := by
  simp only [listOf]
  induction items with
  | nil => rfl
  | cons a rest ih => simp [round, ih]

end Data

/-! ## Directives -/

theorem Directive.pathSet?_pathData (s : PathSet) : pathSet? (pathData s) = some s := by
  have paths : Data.listOf Data.text? (.list (s.paths.map .text)) = some s.paths :=
    Data.listOf_map Data.text?_text s.paths
  rw [pathSet?, pathData, paths, Option.map_some, PathSet.ofList_paths]

theorem Directive.ofData?_toData (surplus : Surplus) (d : Directive) :
    ofData? surplus d.toData = some d := by
  simp [ofData?, toData, Data.fields?_ofEntries, fieldNames, Entries.get?, Data.orElse,
    pathSet?_pathData, Data.bool?]

/-! ## Groups -/

theorem LayoutGroup.ofData?_toData (surplus : Surplus) (g : LayoutGroup) :
    ofData? surplus g.toData = some g := by
  simp [ofData?, toData, Data.fields?_ofEntries, fieldNames, Entries.get?, Data.orElse, Data.text?,
    Data.bool?]

theorem LayoutGroup.toData_ne_null (g : LayoutGroup) : g.toData ≠ .null := by
  simp [toData, Data.ofEntries]

/-! ## Layout fields -/

namespace LayoutField

theorem get?_declared (name other : String) (d : Option Data) :
    Entries.get? name (declared other d) = if name = other then d else none := by
  cases d <;> simp [declared, Entries.get?]

theorem reverse_declared (name : String) (d : Option Data) :
    (declared name d).reverse = declared name d := by
  cases d <;> rfl

theorem innerOfEntries_eq (surplus : Surplus) (entries : List (String × Data)) :
    innerOfEntries surplus entries =
      Data.orElse [] (listOfData? surplus) (Entries.get? innerName entries) := by
  induction entries with
  | nil => rfl
  | cons entry rest ih =>
    obtain ⟨name, d⟩ := entry
    rw [innerOfEntries, Entries.get?]
    by_cases h : name = innerName
    · simp [h, Data.orElse]
    · simp [h, Ne.symm h, ih]

def innerData (fields : List LayoutField) : Option Data :=
  if fields.isEmpty then none else some (.list (itemsToData fields))

def written (f : LayoutField) : List (String × Data) :=
  [("key", .text f.key)] ++ declared "title" (f.title.map .text) ++
    declared "default" (f.defaultText.map .text) ++ declared "format" (f.format.map .text) ++
    declared "group" (f.group.map LayoutGroup.toData) ++ declared innerName (innerData f.fields)

theorem toData_eq (f : LayoutField) : f.toData = .ofEntries f.written := by
  obtain ⟨key, title, defaultText, format, group, fields⟩ := f
  cases fields <;> rfl

/-- No two entries have one name, so each is found under its own. -/
theorem get?_written (f : LayoutField) :
    (fieldNames.map fun name => Entries.get? name f.written.reverse) =
        [some (.text f.key), f.title.map .text, f.defaultText.map .text, f.format.map .text,
          f.group.map LayoutGroup.toData] ∧
      Entries.get? innerName f.written.reverse = innerData f.fields := by
  simp [fieldNames, innerName, written, Entries.get?_append, reverse_declared, get?_declared,
    Entries.get?]

theorem ownParts?_written (surplus : Surplus) (f : LayoutField) :
    ownParts? surplus [some (.text f.key), f.title.map .text, f.defaultText.map .text,
      f.format.map .text, f.group.map LayoutGroup.toData] = some { f with fields := [] } := by
  have text (t : Option String) :
      Data.orElse none (Data.optional Data.text?) (t.map .text) = some t :=
    Data.orElse_optional_map Data.text?_text (fun _ => by simp) t
  have group : Data.orElse none (Data.optional (LayoutGroup.ofData? surplus))
      (f.group.map LayoutGroup.toData) = some f.group :=
    Data.orElse_optional_map (LayoutGroup.ofData?_toData surplus) LayoutGroup.toData_ne_null f.group
  simp [ownParts?, Data.required, Data.text?, text, group]

theorem ofData?_toData_of_inner {surplus : Surplus} {f : LayoutField}
    (inner : itemsOfData? surplus (itemsToData f.fields) = some f.fields) :
    ofData? surplus f.toData = some f := by
  have innerFields :
      Data.orElse [] (listOfData? surplus) (innerData f.fields) = some f.fields := by
    rw [innerData]
    cases none : f.fields with
    | nil => rfl
    | cons first rest => simpa [none, Data.orElse, listOfData?] using inner
  obtain ⟨own, last⟩ := get?_written f
  rw [toData_eq, Data.ofEntries, ofData?, innerOfEntries_eq]
  simp only [Entries.get?_foldl_insert, Entries.get?_nil, Option.or_none, own, last,
    ownParts?_written, innerFields]
  cases f
  rfl

mutual

theorem ofData?_toData (surplus : Surplus) (f : LayoutField) :
    ofData? surplus f.toData = some f := by
  obtain ⟨key, title, defaultText, format, group, fields⟩ := f
  exact ofData?_toData_of_inner (itemsOfData?_toData surplus fields)

theorem itemsOfData?_toData (surplus : Surplus) (fields : List LayoutField) :
    itemsOfData? surplus (itemsToData fields) = some fields := by
  cases fields with
  | nil => rfl
  | cons f rest =>
    simp [itemsToData, itemsOfData?, ofData?_toData surplus f, itemsOfData?_toData surplus rest]

end

end LayoutField

/-! ## Layouts -/

theorem Layout.ofData?_toData (surplus : Surplus) (layout : Layout) :
    ofData? surplus layout.toData = some layout := by
  have fields : LayoutField.listOfData? surplus (.list (LayoutField.itemsToData layout.fields)) =
      some layout.fields := by
    rw [LayoutField.listOfData?, LayoutField.itemsOfData?_toData]
  simp [ofData?, toData, Data.fields?_ofEntries, fieldNames, Entries.get?, Data.orElse, Data.text?,
    fields]

/-- Every layout and every directive is read back as the same one from what it was written as,
    whether or not surplus parts are refused. So what is built from the one that was read is what was
    built from the one that was written. -/
theorem read_as_written (surplus : Surplus) (layout : Layout) (directive : Directive) :
    Layout.ofData? surplus layout.toData = some layout ∧
      Directive.ofData? surplus directive.toData = some directive :=
  ⟨layout.ofData?_toData surplus, directive.ofData?_toData surplus⟩

end StatusReport
