import AssessmentItem.Document.Item
import AssessmentItem.Proofs.Json.Objects
import AssessmentItem.Proofs.Value.Typing

/-!
# Documents that are written and read again

Every part of a document is read back from its encoding: what is left out is read as absent, what
is null in constraints likewise, and the forms of values and of areas are told apart.  So decoding
undoes encoding, and what has been decoded and is encoded has a normal form, which is decoded and
encoded to itself.

## Main definitions

* `DeclarationDocument.written`, `ItemDocument.written` : the fields with what is written of them.
* `Area.form` : the form that an area is tagged with.

## Main results

* `Area.ofFields?_eq` : the fields of an area, alone or beside others, give the area again.
* `restores_declaration`, `restores_item` : declarations and documents are read back.
* `ItemDocument.ofJson?_encoded` : what has been decoded is encoded and decoded again.
-/

namespace AssessmentItem

open Json

/-! ### Names -/

theorem VariableKind.ofName?_name (k : VariableKind) : ofName? k.name = some k := by
  cases k <;> decide

theorem Area.Form.ofName?_name (f : Area.Form) : ofName? f.name = some f := by
  cases f <;> decide

/-! ### Objects -/

section Objects

variable {α : Type} {names : List String} {read : List (String × Json) → Option α} {a : α}

/-- An object is read if `read` takes its fields from where they are found. -/
theorem bind_asFields?_fields {l : List (String × Json)} (distinct : (l.map (·.1)).Nodup)
    (h : ∀ fs, (∀ e ∈ l, lookup? fs e.1 = some e.2) → read fs = some a) :
    (asFields? names (fields l)).bind read = some a := by
  rw [asFields?_fields, Option.bind_some]
  exact h _ (lookup?_ofList distinct)

/-- An object is read of whose fields some may have nothing to write: only those `present` are
there. -/
theorem bind_asFields?_present {l : List (String × Option Json)} (distinct : (l.map (·.1)).Nodup)
    (h : ∀ fs, (∀ e ∈ l, lookup? fs e.1 = e.2) → read fs = some a) :
    (asFields? names (fields (present l))).bind read = some a := by
  rw [asFields?_fields, Option.bind_some]
  exact h _ (lookup?_present distinct)

end Objects

/-! ### Areas -/

theorem restores_point :
    Restores (fun c : Int64 × Int64 ↦ .array [.ofInteger c.1, .ofInteger c.2]) Area.point? where
  view_null := rfl
  view_encode c := by
    rw [Area.point?, restores_integer.view_encode, restores_integer.view_encode]
    rfl

namespace Area

/-- The `Form` that an area is tagged with. -/
def form : Area → Form
  | everywhere => .default
  | rectangle .. => .rect
  | circle .. => .circle
  | polygon _ => .poly
  | ellipse .. => .ellipse

theorem nodup_toFields (a : Area) : ("value" :: a.toFields.map (·.1)).Nodup := by
  cases a <;> simp [toFields]

/-- The `toFields` of an area, alone or beside others, give the area again. -/
theorem ofFields?_eq (a : Area) {fs : List (String × Json)}
    (h : ∀ e ∈ a.toFields, lookup? fs e.1 = some e.2) :
    lookup? fs "shape" = some (.string a.form.name) ∧ ofFields? a.form fs = some a := by
  have coordinate {name : String} {n : Int64} (hn : lookup? fs name = some (.ofInteger n)) :
      required? fs name asInteger? = some n := restores_integer.required? hn
  cases a with
  | everywhere => exact ⟨h _ List.mem_cons_self, rfl⟩
  | rectangle left top right bottom =>
    simp only [toFields, List.forall_mem_cons] at h
    obtain ⟨hshape, hleft, htop, hright, hbottom, -⟩ := h
    refine ⟨hshape, ?_⟩
    simp only [ofFields?, form, coordinate hleft, coordinate htop, coordinate hright,
      coordinate hbottom]
    rfl
  | circle x y radius =>
    simp only [toFields, List.forall_mem_cons] at h
    obtain ⟨hshape, hx, hy, hradius, -⟩ := h
    refine ⟨hshape, ?_⟩
    simp only [ofFields?, form, coordinate hx, coordinate hy, coordinate hradius]
    rfl
  | polygon corners =>
    simp only [toFields, List.forall_mem_cons] at h
    obtain ⟨hshape, hpoints, -⟩ := h
    refine ⟨hshape, ?_⟩
    simp only [ofFields?, form, restores_point.list.required? hpoints]
    rfl
  | ellipse x y horizontal vertical =>
    simp only [toFields, List.forall_mem_cons] at h
    obtain ⟨hshape, hx, hy, hhorizontal, hvertical, -⟩ := h
    refine ⟨hshape, ?_⟩
    simp only [ofFields?, form, coordinate hx, coordinate hy, coordinate hhorizontal,
      coordinate hvertical]
    rfl

end Area

/-- The area of an `AreaEntry` is told from its score beside it. -/
theorem restores_areaEntry : Restores AreaEntry.toJson AreaEntry.ofJson? where
  view_null := rfl
  view_encode e := by
    obtain ⟨a, score⟩ := e
    have distinct : ((a.toFields ++ [("value", Json.float score)]).map (·.1)).Nodup := by
      rw [List.map_append]
      exact List.nodup_append_comm.1 a.nodup_toFields
    have hfound := lookup?_ofList distinct
    obtain ⟨harea, hvalue⟩ := List.forall_mem_append.1 hfound
    obtain ⟨hshape, hfields⟩ := a.ofFields?_eq harea
    have hscore := restores_number.required? (hvalue _ List.mem_cons_self)
    have hform : Area.Form.ofMixedTag? (.string a.form.name) = some a.form :=
      a.form.ofName?_name
    rw [AreaEntry.toJson, AreaEntry.ofJson?]
    simp only [fields, ofMap, asEntries?, hscore, hshape, hform, hfields, Option.bind_eq_bind,
      Option.bind_some]

/-! ### Values and tables -/

theorem restores_baseType :
    Restores (fun t : BaseType ↦ .string t.name) (asNamed? BaseType.ofName?) :=
  restores_named BaseType.ofName?_name

theorem restores_fieldDocument :
    Restores (fun f : FieldDocument ↦
      .fields [("baseType", .string f.baseType.name), ("value", .string f.text)])
      FieldDocument.ofJson? where
  view_null := rfl
  view_encode f := by
    rw [FieldDocument.ofJson?]
    refine bind_asFields?_fields (by simp) fun fs hfound ↦ ?_
    simp only [List.forall_mem_cons] at hfound
    obtain ⟨htype, htext, -⟩ := hfound
    rw [restores_baseType.required? htype, restores_text.required? htext]
    rfl

/-- In a `ValueDocument` a text, a list and a record are told apart. -/
theorem restores_value : Restores ValueDocument.toJson ValueDocument.ofJson? where
  view_null := rfl
  view_encode v := by
    cases v with
    | text s => rfl
    | list texts =>
      have hlist := restores_text.list.view_encode texts
      rw [ValueDocument.toJson, ValueDocument.ofJson?, ofStrings, hlist]
      rfl
    | record fields =>
      have hmap := restores_fieldDocument.map.view_encode fields
      rw [ValueDocument.toJson, ValueDocument.ofJson?, hmap]
      rfl

theorem restores_mapEntry : Restores MapEntry.toJson MapEntry.ofJson? where
  view_null := rfl
  view_encode e := by
    rw [MapEntry.toJson, MapEntry.ofJson?]
    refine bind_asFields?_fields (by simp) fun fs hfound ↦ ?_
    simp only [List.forall_mem_cons] at hfound
    obtain ⟨hkey, hscore, hcase, -⟩ := hfound
    rw [restores_text.required? hkey, restores_number.required? hscore,
      restores_bool.defaulted? hcase]
    rfl

theorem restores_constraints : Restores ResponseConstraints.toJson ResponseConstraints.ofJson? where
  view_null := rfl
  view_encode c := by
    rw [ResponseConstraints.toJson, ResponseConstraints.ofJson?]
    refine bind_asFields?_fields (by simp) fun fs hfound ↦ ?_
    simp only [List.forall_mem_cons] at hfound
    obtain ⟨hmin, hmax, hmask, -⟩ := hfound
    rw [restores_natural.defaulted? hmin, restores_natural.optional?_orNull hmax,
      restores_text.optional?_orNull hmask]
    rfl

theorem restores_matchEntry : Restores MatchEntry.toJson MatchEntry.ofJson? where
  view_null := rfl
  view_encode e := by
    rw [MatchEntry.toJson, MatchEntry.ofJson?]
    refine bind_asFields?_fields (by simp) fun fs hfound ↦ ?_
    simp only [List.forall_mem_cons] at hfound
    obtain ⟨hsource, htarget, -⟩ := hfound
    rw [restores_integer.required? hsource, restores_text.required? htarget]
    rfl

theorem restores_interpolationEntry :
    Restores InterpolationEntry.toJson InterpolationEntry.ofJson? where
  view_null := rfl
  view_encode e := by
    rw [InterpolationEntry.toJson, InterpolationEntry.ofJson?]
    refine bind_asFields?_fields (by simp) fun fs hfound ↦ ?_
    simp only [List.forall_mem_cons] at hfound
    obtain ⟨hsource, hboundary, htarget, -⟩ := hfound
    rw [restores_number.required? hsource, restores_bool.defaulted? hboundary,
      restores_text.required? htarget]
    rfl

section Tables

variable {ε : Type} {encode : ε → Json} {view : Json → Option ε}

/-- The fields that `ScoreTable` has in a document. -/
def ScoreTable.written (encode : ε → Json) (t : ScoreTable ε) : List (String × Option Json) :=
  [("entries", some (.array (t.entries.map encode))),
    ("defaultValue", some (.float t.defaultScore)),
    ("lowerBound", t.lowerBound.map .float), ("upperBound", t.upperBound.map .float)]

theorem ScoreTable.toJson_eq (encode : ε → Json) (t : ScoreTable ε) :
    t.toJson encode = fields (present (t.written encode)) := by
  simp [toJson, written]

theorem restores_scoreTable (h : Restores encode view) :
    Restores (ScoreTable.toJson encode) (ScoreTable.ofJson? view) where
  view_null := rfl
  view_encode t := by
    rw [t.toJson_eq, ScoreTable.ofJson?]
    refine bind_asFields?_present (by simp [ScoreTable.written]) fun fs hfound ↦ ?_
    simp only [ScoreTable.written, List.forall_mem_cons] at hfound
    obtain ⟨hentries, hdefault, hlower, hupper, -⟩ := hfound
    rw [h.list.required? hentries, restores_number.defaulted? hdefault,
      restores_number.optional? hlower, restores_number.optional? hupper]
    rfl

/-- The fields that `TableDocument` has in a document. -/
def TableDocument.written (encode : ε → Json) (t : TableDocument ε) :
    List (String × Option Json) :=
  [("entries", some (.array (t.entries.map encode))), ("defaultValue", t.default?.map .string)]

theorem TableDocument.toJson_eq (encode : ε → Json) (t : TableDocument ε) :
    t.toJson encode = fields (present (t.written encode)) := by
  simp [toJson, written]

theorem restores_table (h : Restores encode view) :
    Restores (TableDocument.toJson encode) (TableDocument.ofJson? view) where
  view_null := rfl
  view_encode t := by
    rw [t.toJson_eq, TableDocument.ofJson?]
    refine bind_asFields?_present (by simp [TableDocument.written]) fun fs hfound ↦ ?_
    simp only [TableDocument.written, List.forall_mem_cons] at hfound
    obtain ⟨hentries, hdefault, -⟩ := hfound
    rw [h.list.required? hentries, restores_text.optional? hdefault]
    rfl

end Tables

/-! ### Declarations -/

/-- The fields that `DeclarationDocument` has in a document. -/
def DeclarationDocument.written (d : DeclarationDocument) : List (String × Option Json) :=
  [("kind", some (.string d.kind.name)), ("identifier", some (.string d.identifier)),
    ("cardinality", some (.string d.cardinality.name)),
    ("baseType", d.baseType.map fun t ↦ .string t.name),
    ("defaultValue", d.default.map ValueDocument.toJson),
    ("correctResponse", d.correct.map ValueDocument.toJson),
    ("mapping", d.mapping.map (ScoreTable.toJson MapEntry.toJson)),
    ("areaMapping", d.areaMapping.map (ScoreTable.toJson AreaEntry.toJson)),
    ("constraints", d.constraints.map ResponseConstraints.toJson),
    ("normalMinimum", d.normalMinimum.map .float), ("normalMaximum", d.normalMaximum.map .float),
    ("masteryValue", d.mastery.map .float),
    ("matchTable", d.matchTable.map (TableDocument.toJson MatchEntry.toJson)),
    ("interpolationTable",
      d.interpolationTable.map (TableDocument.toJson InterpolationEntry.toJson)),
    ("paramVariable", some (.bool d.isParameter)), ("mathVariable", some (.bool d.isMath))]

theorem DeclarationDocument.toJson_eq (d : DeclarationDocument) :
    d.toJson = fields (present d.written) := by
  simp [toJson, written]

theorem restores_declaration : Restores DeclarationDocument.toJson DeclarationDocument.ofJson? where
  view_null := rfl
  view_encode d := by
    rw [d.toJson_eq, DeclarationDocument.ofJson?]
    refine bind_asFields?_present (by simp [DeclarationDocument.written]) fun fs hfound ↦ ?_
    simp only [DeclarationDocument.written, List.forall_mem_cons] at hfound
    obtain ⟨hkind, hid, hcard, htype, hdefault, hcorrect, hmapping, hareas, hconstraints, hmin,
      hmax, hmastery, hmatch, hinterpolation, hparameter, hmath, -⟩ := hfound
    rw [(restores_named VariableKind.ofName?_name).required? hkind, restores_text.required? hid,
      (restores_named Cardinality.ofName?_name).required? hcard,
      restores_baseType.optional? htype, restores_value.optional? hdefault,
      restores_value.optional? hcorrect,
      (restores_scoreTable restores_mapEntry).optional? hmapping,
      (restores_scoreTable restores_areaEntry).optional? hareas,
      restores_constraints.optional? hconstraints, restores_number.optional? hmin,
      restores_number.optional? hmax, restores_number.optional? hmastery,
      (restores_table restores_matchEntry).optional? hmatch,
      (restores_table restores_interpolationEntry).optional? hinterpolation,
      restores_bool.defaulted? hparameter, restores_bool.defaulted? hmath]
    rfl

/-! ### Documents -/

namespace ItemDocument

/-- The fields that `ItemDocument` has in a document. -/
def written (d : ItemDocument) : List (String × Option Json) :=
  [("identifier", some (.string d.identifier)), ("title", d.title.map .string),
    ("adaptive", some (.bool d.adaptive)),
    ("declarations", some (.array (d.declarations.map DeclarationDocument.toJson))),
    ("templateProcessing", some (.array d.templateProcessing)),
    ("responseProcessing", some (.array d.responseProcessing))]

theorem toJson_eq (d : ItemDocument) : d.toJson = fields (present d.written) := by
  simp [toJson, written]

/-- What `ofJson?` has decoded and `toJson` encodes again. -/
def normalForm? (v : Json) : Option Json := (ofJson? v).map toJson

end ItemDocument

/-- The list `rules` of a document stays as it is. -/
theorem defaulted?_rules {fs : List (String × Json)} {name : String} {rules : List Json}
    (hfield : lookup? fs name = some (.array rules)) :
    defaulted? fs name [] (asList? some) = some rules := by
  have hrules := mapM_map_of_forall (f := fun v : Json ↦ some v) (g := id) (fun _ ↦ rfl) rules
  rw [List.map_id] at hrules
  rw [defaulted?, hfield]
  exact hrules

theorem restores_item : Restores ItemDocument.toJson ItemDocument.ofJson? where
  view_null := rfl
  view_encode d := by
    rw [d.toJson_eq, ItemDocument.ofJson?]
    refine bind_asFields?_present (by simp [ItemDocument.written]) fun fs hfound ↦ ?_
    simp only [ItemDocument.written, List.forall_mem_cons] at hfound
    obtain ⟨hid, htitle, hadaptive, hdeclarations, htemplate, hresponse, -⟩ := hfound
    rw [restores_text.required? hid, restores_text.optional? htitle,
      restores_bool.defaulted? hadaptive, restores_declaration.list.defaulted? hdeclarations,
      defaulted?_rules htemplate, defaulted?_rules hresponse]
    rfl

/-- A document that `ofJson?` has decoded is encoded and decoded to itself. So encoding what has
been decoded is idempotent, and it does not change `item`, the item of the document or why there is
none. -/
theorem ItemDocument.ofJson?_encoded {v : Json} {d : ItemDocument} (decoded : ofJson? v = some d) :
    ofJson? d.toJson = some d ∧ normalForm? d.toJson = normalForm? v ∧
      Item.ofJson d.toJson = d.item ∧ Item.ofJson d.toJson = Item.ofJson v := by
  have hagain : ofJson? d.toJson = some d := restores_item.view_encode d
  have hitem : Item.ofJson d.toJson = d.item := by rw [Item.ofJson, hagain]
  refine ⟨hagain, ?_, hitem, ?_⟩
  · rw [normalForm?, normalForm?, hagain, decoded]
  · rw [hitem, Item.ofJson, decoded]

/-- A document of an item whose response is scored by areas. -/
def areaDocument : ItemDocument where
  identifier := "area"
  title := none
  adaptive := false
  declarations :=
    [{ kind := .response, identifier := "RESPONSE", cardinality := .single, baseType := some .point
       default := none, correct := some (.text "3 4"), mapping := none
       areaMapping := some ⟨[⟨.circle 3 4 2, 1⟩, ⟨.everywhere, 0⟩], 0, none, some 1⟩
       constraints := some ⟨1, none, none⟩
       normalMinimum := none, normalMaximum := none, mastery := none
       matchTable := none, interpolationTable := none, isParameter := false, isMath := false }]
  templateProcessing := []
  responseProcessing := [.fields [("rule", .string "exitResponse")]]

/-- The document `areaDocument` as it may be written, with fields in another order and `null` for
what is absent. -/
def areaJson : Json :=
  .object [("title", .null), ("identifier", .string "area"),
    ("declarations", .array [.object [("kind", .string "response"),
      ("identifier", .string "RESPONSE"), ("cardinality", .string "single"),
      ("baseType", .object [("point", .null)]), ("correctResponse", .string "3 4"),
      ("areaMapping", .object [("entries", .array [
          .object [("value", .float 1), ("shape", .string "circle"), ("x", .natural 3),
            ("y", .natural 4), ("radius", .natural 2)],
          .object [("shape", .natural 0), ("value", .float 0)]]),
        ("upperBound", .float 1), ("lowerBound", .null)]),
      ("constraints", .object [("minValues", .natural 1)])]]),
    ("responseProcessing", .array [.object [("rule", .string "exitResponse")]])]

theorem areaDocument_encoded :
    ItemDocument.ofJson? areaJson = some areaDocument ∧ areaDocument.toJson ≠ areaJson ∧
      ItemDocument.ofJson? areaDocument.toJson = some areaDocument ∧
      Item.ofJson areaDocument.toJson = Item.ofJson areaJson := by
  have decoded : ItemDocument.ofJson? areaJson = some areaDocument := rfl
  obtain ⟨hagain, -, -, hitem⟩ := ItemDocument.ofJson?_encoded decoded
  have hwritten : areaDocument.toJson.field? "adaptive" = some (.bool false) := rfl
  refine ⟨decoded, fun h ↦ ?_, hagain, hitem⟩
  rw [h] at hwritten
  cases hwritten

end AssessmentItem
