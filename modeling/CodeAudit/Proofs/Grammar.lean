import CodeAudit.Proofs.Lookup
import CodeAudit.Proofs.Outcome
import CodeAudit.Rule.SpecReader

/-!
# Tables that are match descriptions

`Fits` says which tables are match descriptions of a kind, and `Fault` what is wrong with the
others. Reading a table gives a description exactly if the table fits one of the kinds; the
description has the values of the table and defaults for the rest, so only the values count, not how
and in which order their keys are written. Reading any other table names a fault of it
(`ofValue_grammar`).
-/

namespace CodeAudit.Rule

-- ---------------------------------------------------------------------------
-- Values of fields
-- ---------------------------------------------------------------------------

def FieldKind.Admits : FieldKind → Value → Prop
  | .texts, v => ∃ texts, v = .ofTexts texts
  | .flag, v => ∃ b, v = .bool b
  | .integer, v => ∃ n, v = .int n
  | .text, v => ∃ s, v = .str s

def FieldKind.problem : FieldKind → String → Problem
  | .texts => .notTexts
  | .flag => .notBoolean
  | .integer => .notInteger
  | .text => .notText

def FieldValue.kind : FieldValue → FieldKind
  | .texts .. => .texts
  | .flag .. => .flag
  | .integer .. => .integer
  | .text .. => .text

def FieldValue.value : FieldValue → Value
  | .texts list => .ofTexts list
  | .flag b => .bool b
  | .integer n => .int n
  | .text s => .str s

theorem texts?_cons (s : String) (items : List Value) :
    (Value.list (.str s :: items)).texts? = (Value.list items).texts?.map (s :: ·) := by
  simp only [Value.texts?, List.mapM_cons, Option.map_eq_bind]
  rfl

theorem texts?_eq_some {v : Value} : v.texts? = some list ↔ v = .ofTexts list := by
  cases v with
  | list items =>
    induction items generalizing list with
    | nil => cases list <;> simp [Value.texts?, Value.ofTexts]
    | cons item items ih =>
      simp only [Value.ofTexts, Value.list.injEq] at ih
      cases item with
      | str s =>
        rw [texts?_cons, Option.map_eq_some_iff]
        cases list with
        | nil => simp [Value.ofTexts]
        | cons t list => simp [ih, Value.ofTexts, and_comm]
      | _ => cases list <;> simp [Value.texts?, Value.ofTexts, List.mapM_cons]
  | _ => simp [Value.texts?, Value.ofTexts]

def FieldValue.ofValue? : Value → Option FieldValue
  | .bool b => some (.flag b)
  | .int n => some (.integer n)
  | .str s => some (.text s)
  | v => v.texts?.map .texts

@[simp]
theorem FieldValue.ofValue?_bool (b : Bool) : ofValue? (.bool b) = some (.flag b) := rfl

@[simp]
theorem FieldValue.ofValue?_int (n : Int) : ofValue? (.int n) = some (.integer n) := rfl

@[simp]
theorem FieldValue.ofValue?_str (s : String) : ofValue? (.str s) = some (.text s) := rfl

@[simp]
theorem FieldValue.ofValue?_ofTexts (list : List String) :
    ofValue? (.ofTexts list) = some (.texts list) := by
  have hlist : (Value.ofTexts list).texts? = some list := texts?_eq_some.mpr rfl
  simp only [Value.ofTexts] at hlist
  simp [ofValue?, Value.ofTexts, hlist]

theorem admits_value (checked : FieldValue) : checked.kind.Admits checked.value := by
  cases checked <;> exact ⟨_, rfl⟩

/-- All that checking a value can do: keep it as a value of the kind, or report that it is none. -/
theorem check_cases (kind : FieldKind) (place : String) (v : Value) :
    (∃ checked, kind.check place v = .ok checked ∧ checked.kind = kind ∧ checked.value = v) ∨
      (kind.check place v = .error (kind.problem place) ∧ ¬ kind.Admits v) := by
  cases kind with
  | texts =>
    cases hv : v.texts? with
    | some list =>
      exact .inl ⟨.texts list, by simp [FieldKind.check, hv], rfl, (texts?_eq_some.mp hv).symm⟩
    | none =>
      refine .inr ⟨by simp [FieldKind.check, hv, FieldKind.problem], ?_⟩
      rintro ⟨list, rfl⟩
      rw [texts?_eq_some.mpr rfl] at hv
      cases hv
  | flag =>
    cases v with
    | bool b => exact .inl ⟨.flag b, rfl, rfl, rfl⟩
    | _ => exact .inr ⟨rfl, fun ⟨_, h⟩ => nomatch h⟩
  | integer =>
    cases v with
    | int n => exact .inl ⟨.integer n, rfl, rfl, rfl⟩
    | _ => exact .inr ⟨rfl, fun ⟨_, h⟩ => nomatch h⟩
  | text =>
    cases v with
    | str s => exact .inl ⟨.text s, rfl, rfl, rfl⟩
    | _ => exact .inr ⟨rfl, fun ⟨_, h⟩ => nomatch h⟩

-- ---------------------------------------------------------------------------
-- Checked fields
-- ---------------------------------------------------------------------------

namespace Given

def ofKind? (given : Given) (name : String) : FieldKind → Option FieldValue
  | .texts => (given.texts? name).map .texts
  | .flag => (given.flag? name).map .flag
  | .integer => (given.integer? name).map .integer
  | .text => (given.text? name).map .text

theorem forall_kind_iff {given : Given} {name : String} {kind : FieldKind} :
    (∀ checked, given.lookup name = some checked → checked.kind = kind) ↔
      given.lookup name = given.ofKind? name kind := by
  cases kind <;> simp only [ofKind?, texts?, flag?, integer?, text?] <;>
    cases given.lookup name with
    | none => simp
    | some checked => cases checked <;> simp [FieldValue.kind]

end Given

namespace Spec

/-- The fields of a kind that may be left out, with the values that they have then. -/
def defaults : String → Entries
  | "empty_block" => [("allow_comments", .bool false)]
  | "function_call" =>
    [("match_method_form", .bool false), ("match_constructor_form", .bool false),
      ("case_insensitive", .bool true)]
  | "returns_only" => [("required_trailing_comment_words", .ofTexts [])]
  | "contains_text" => [("context", .str "any"), ("case_insensitive", .bool true)]
  | "assignment_pattern" => [("values", .ofTexts []), ("operators", .ofTexts ["=", ":"])]
  | "chained_access" => [("operator", .str "?.")]
  | "promise_catch" =>
    [("silent_values", .ofTexts ["null", "undefined", "false", "true", "''", "\"\""])]
  | "comment_marker" => [("style", .str "any")]
  | "string_literal" => [("case_insensitive", .bool false)]
  | "secret_pattern" => [("custom_regex", .null)]
  | "url_pattern" => [("protocol", .str "any"), ("exclude_localhost", .bool false)]
  | "raw_regex" => [("flags", .str "g")]
  | _ => []

def filled (tag : String) (value? : Option Value) (name : String) : Value :=
  (value?.or ((defaults tag).get? name)).getD .null

theorem ofGiven?_filled {tag : String} {fields : List Field} {given : Given}
    (hshape : (tag, fields) ∈ shapes)
    (hkinds : ∀ f ∈ fields, ∀ checked, given.lookup f.name = some checked → checked.kind = f.kind)
    (hgiven : ∀ f ∈ fields, f.required → (given.lookup f.name).isSome) :
    ∃ spec, ofGiven? tag given = some spec ∧ spec.tag = tag ∧
      spec.fields = fields.map fun f =>
        (f.name, filled tag ((given.lookup f.name).map FieldValue.value) f.name) := by
  simp only [shapes, List.mem_cons, Prod.mk.injEq, List.not_mem_nil, or_false] at hshape
  rcases hshape with ⟨rfl, rfl⟩ | ⟨rfl, rfl⟩ | ⟨rfl, rfl⟩ | ⟨rfl, rfl⟩ | ⟨rfl, rfl⟩ | ⟨rfl, rfl⟩ |
    ⟨rfl, rfl⟩ | ⟨rfl, rfl⟩ | ⟨rfl, rfl⟩ | ⟨rfl, rfl⟩ | ⟨rfl, rfl⟩ | ⟨rfl, rfl⟩ | ⟨rfl, rfl⟩ |
    ⟨rfl, rfl⟩ | ⟨rfl, rfl⟩ | ⟨rfl, rfl⟩ | ⟨rfl, rfl⟩ | ⟨rfl, rfl⟩
  all_goals
    simp only [List.forall_mem_cons, Given.forall_kind_iff, Given.ofKind?] at hkinds hgiven
    simp only [hkinds, Option.isSome_map, Option.isSome_iff_exists, true_implies] at hgiven
  -- All kinds have one required field, except that a fallback value has two and an address none.
  pick_goal 5
  · obtain ⟨⟨operators, hoperators⟩, ⟨fallbacks, hfallbacks⟩, -⟩ := hgiven
    simp [ofGiven?, hoperators, hfallbacks, hkinds, Spec.tag, Spec.fields, filled, FieldValue.value]
  pick_goal 12
  · simp [ofGiven?, hkinds, Spec.tag, Spec.fields, filled, defaults, Entries.get?, lookup_pair,
      Function.comp_def, FieldValue.value]
  all_goals
    obtain ⟨⟨value, hvalue⟩, -⟩ := hgiven
    simp [ofGiven?, hvalue, hkinds, Spec.tag, Spec.fields, filled, defaults, Entries.get?,
      lookup_pair, Function.comp_def, FieldValue.value, defaultSilentValues]

def given (spec : Spec) : Given :=
  spec.fields.filterMap fun (name, v) => (FieldValue.ofValue? v).map (name, ·)

theorem ofGiven?_given {spec : Spec} (h : spec.tag ∈ tags) :
    ofGiven? spec.tag spec.given = some spec := by
  cases spec with
  | unspecified => simp [tags, shapes, tag] at h
  | secret kind custom => cases custom <;> rfl
  | _ =>
    simp [tag, ofGiven?, given, fields, lookup_pair, Given.texts?, Given.flag?, Given.integer?,
      Given.text?]

theorem ext_fields {spec spec' : Spec} (hknown : spec.tag ∈ tags) (htag : spec.tag = spec'.tag)
    (hfields : spec.fields = spec'.fields) : spec = spec' := by
  have hgiven : spec.given = spec'.given := by rw [given, given, hfields]
  have hread := ofGiven?_given hknown
  rw [hgiven, htag, ofGiven?_given (htag ▸ hknown)] at hread
  exact (Option.some.inj hread).symm

-- ---------------------------------------------------------------------------
-- Written values
-- ---------------------------------------------------------------------------

/-- The value that stands under a name. Of several keys that are the same name, the last counts. -/
def written? (entries : Entries) (name : String) : Option Value :=
  (entries.reverse.find? (normalKey ·.1 == name)).map (·.2)

variable {entries : Entries} {tag : String} {fields : List Field}

theorem isSome_written? : (written? entries name).isSome ↔ ∃ e ∈ entries, normalKey e.1 = name := by
  simp [written?]

theorem get?_mapKeys_normalKey (entries : Entries) (name : String) :
    (Entries.mapKeys normalKey entries).get? name = written? entries name :=
  Entries.get?_mapKeys normalKey entries name

theorem mem_erase_mapKeys : (name, v) ∈ (Entries.mapKeys normalKey entries).erase "type" ↔
    name ≠ "type" ∧ written? entries name = some v := by
  rw [← get?_mapKeys_normalKey, Entries.get?, lookup_eq_some_iff_mem (Entries.nodup_mapKeys _ _),
    Entries.erase, List.mem_filter, and_comm]
  simp

theorem written?_eq_lookup (entries : Entries) (name : String) :
    written? entries name = (entries.map (Prod.map normalKey id)).reverse.lookup name := by
  rw [written?, ← List.map_reverse]
  induction entries.reverse with
  | nil => rfl
  | cons e rest ih =>
    obtain ⟨key, v⟩ := e
    rw [List.map_cons, Prod.map_apply, lookup_pair, ← ih, List.find?_cons]
    by_cases h : normalKey key = name
    · simp [h]
    · simp [beq_false_of_ne h, Ne.symm h]

theorem written?_eq_some (h : (entries.map (normalKey ·.1)).Nodup) :
    written? entries name = some v ↔ (name, v) ∈ entries.map (Prod.map normalKey id) := by
  rw [written?_eq_lookup, lookup_eq_some_iff_mem, List.mem_reverse]
  rw [List.map_reverse, List.nodup_reverse, List.map_map]
  exact h

-- ---------------------------------------------------------------------------
-- The grammar
-- ---------------------------------------------------------------------------

structure OfKind (entries : Entries) (tag : String) (fields : List Field) : Prop where
  shape : (tag, fields) ∈ shapes
  type : written? entries "type" = some (.str tag)

/-- The tables that are descriptions of a kind. -/
structure Fits (entries : Entries) (tag : String) (fields : List Field) : Prop
    extends OfKind entries tag fields where
  keys : ∀ e ∈ entries, normalKey e.1 = "type" ∨ ∃ f ∈ fields, f.name = normalKey e.1
  values : ∀ f ∈ fields, ∀ v, written? entries f.name = some v → f.kind.Admits v
  given : ∀ f ∈ fields, f.name ∉ (defaults tag).keys → (written? entries f.name).isSome

/-- What is wrong with a table that is no description, and the problem that reports it. -/
inductive Fault (place : String) (entries : Entries) : Problem → Prop where
  | type (h : ∀ tag fields, ¬ OfKind entries tag fields) :
      Fault place entries (.unknownMatchType place ((written? entries "type").getD .null)
        (sortedNames tags))
  | key {tag : String} {fields : List Field} {e : String × Value}
      (hkind : OfKind entries tag fields) (he : e ∈ entries) (htype : normalKey e.1 ≠ "type")
      (h : ∀ f ∈ fields, f.name ≠ normalKey e.1) :
      Fault place entries (.notField place (normalKey e.1) tag)
  | value {tag : String} {fields : List Field} {f : Field} {v : Value}
      (hkind : OfKind entries tag fields) (hf : f ∈ fields)
      (hv : written? entries f.name = some v) (h : ¬ f.kind.Admits v) :
      Fault place entries (f.kind.problem (place ++ "." ++ f.name))
  | missing {tag : String} {fields missing : List Field} (hkind : OfKind entries tag fields)
      (hne : missing ≠ []) (h : ∀ f, f ∈ missing ↔ f ∈ fields ∧
        f.name ∉ (defaults tag).keys ∧ written? entries f.name = none) :
      Fault place entries (.missingFields place (missing.map (·.name)))

theorem shapes_nodup : (shapes.map (·.1)).Nodup := by decide

theorem lookup_shapes :
    shapes.lookup tag = some fields ↔ (tag, fields) ∈ shapes :=
  lookup_eq_some_iff_mem shapes_nodup

theorem fields_nodup : ∀ shape ∈ shapes, ("type" :: shape.2.map (·.name)).Nodup := by decide

theorem fields_ne_type (hshape : (tag, fields) ∈ shapes) (hf : f ∈ fields) : f.name ≠ "type" :=
  fun h => (List.nodup_cons.mp (fields_nodup _ hshape)).1 (List.mem_map.mpr ⟨f, hf, h⟩)

theorem required_iff : ∀ shape ∈ shapes, ∀ f ∈ shape.2,
    f.required = true ↔ f.name ∉ (defaults shape.1).keys := by decide

theorem OfKind.unique (h : OfKind entries tag fields) (h' : OfKind entries tag' fields') :
    tag = tag' ∧ fields = fields' := by
  have htag : tag = tag' := by simpa using h.type.symm.trans h'.type
  subst htag
  have hfields := (lookup_shapes.mpr h.shape).symm.trans (lookup_shapes.mpr h'.shape)
  exact ⟨rfl, Option.some.inj hfields⟩

theorem Fault.not_fits (hfault : Fault place entries problem) (tag : String)
    (fields : List Field) : ¬ Fits entries tag fields := by
  intro hfits
  cases hfault with
  | type h => exact h tag fields hfits.toOfKind
  | key hkind he htype h =>
    obtain ⟨rfl, rfl⟩ := hkind.unique hfits.toOfKind
    obtain heq | ⟨f, hf, heq⟩ := hfits.keys _ he
    · exact htype heq
    · exact h f hf heq
  | value hkind hf hv h =>
    obtain ⟨rfl, rfl⟩ := hkind.unique hfits.toOfKind
    exact h (hfits.values _ hf _ hv)
  | missing hkind hne h =>
    obtain ⟨rfl, rfl⟩ := hkind.unique hfits.toOfKind
    obtain ⟨f, hf⟩ := List.exists_mem_of_ne_nil _ hne
    obtain ⟨hf, hdefault, hnone⟩ := (h f).mp hf
    have hsome := hfits.given f hf hdefault
    rw [hnone] at hsome
    cases hsome

-- ---------------------------------------------------------------------------
-- Reading
-- ---------------------------------------------------------------------------

/-- All that checking entries can do: keep all of them, each as a value of its field, or report one
that has no field or is no value of its field. -/
theorem checkFields_cases (place tag : String) (fields : List Field) (entries : Entries) :
    (∃ given, checkFields place tag fields entries = .ok given ∧
      entries = given.map (fun (name, checked) => (name, checked.value)) ∧
      ∀ name checked, (name, checked) ∈ given →
        ∃ f ∈ fields, f.name = name ∧ checked.kind = f.kind) ∨
    (∃ name v, (name, v) ∈ entries ∧ (∀ f ∈ fields, f.name ≠ name) ∧
      checkFields place tag fields entries = .error (.notField place name tag)) ∨
    (∃ f ∈ fields, ∃ v, (f.name, v) ∈ entries ∧ ¬ f.kind.Admits v ∧
      checkFields place tag fields entries = .error (f.kind.problem (place ++ "." ++ f.name))) := by
  induction entries with
  | nil => exact .inl ⟨[], rfl, rfl, by simp⟩
  | cons entry rest ih =>
    obtain ⟨name, v⟩ := entry
    rw [checkFields]
    cases hfield : fields.find? (·.name == name) with
    | none =>
      refine .inr (.inl ⟨name, v, by simp, fun f hf => ?_, rfl⟩)
      simpa using List.find?_eq_none.mp hfield f hf
    | some f =>
      have hf := List.mem_of_find?_eq_some hfield
      obtain rfl : f.name = name := by simpa using List.find?_some hfield
      obtain ⟨checked, hcheck, hkind, rfl⟩ | ⟨hcheck, hadmits⟩ :=
        check_cases f.kind (place ++ "." ++ f.name) v
      · simp only [hcheck, ok_bind]
        obtain ⟨given, hgiven, rfl, hkinds⟩ | ⟨name, w, hmem, hname, herror⟩ |
          ⟨g, hg, w, hmem, hadmits, herror⟩ := ih
        · refine .inl ⟨(f.name, checked) :: given, by rw [hgiven, ok_bind, pure_ok], rfl, ?_⟩
          rintro name' checked' (_ | ⟨_, hmem⟩)
          · exact ⟨f, hf, rfl, hkind⟩
          · exact hkinds name' checked' hmem
        · exact .inr (.inl ⟨name, w, .tail _ hmem, hname, by rw [herror, error_bind]⟩)
        · exact .inr (.inr ⟨g, hg, w, .tail _ hmem, hadmits, by rw [herror, error_bind]⟩)
      · exact .inr (.inr ⟨f, hf, v, by simp, hadmits, by simp only [hcheck, error_bind]⟩)

section OfKind

variable (hkind : OfKind entries tag fields)
include hkind

theorem ofValue_of_error (h : checkFields place tag fields
    ((Entries.mapKeys normalKey entries).erase "type") = .error problem) :
    ofValue place (.table entries) = .error problem := by
  simp only [ofValue, get?_mapKeys_normalKey, hkind.type, Option.getD_some,
    lookup_shapes.mpr hkind.shape, h, error_bind]

variable {given : Given} (hgiven : checkFields place tag fields
  ((Entries.mapKeys normalKey entries).erase "type") = .ok given)
include hgiven

theorem ofValue_of_missing
    (h : (fields.filter fun f => f.required && (given.lookup f.name).isNone) = missing)
    (hmissing : missing ≠ []) :
    ofValue place (.table entries) = .error (.missingFields place (missing.map (·.name))) := by
  simp only [ofValue, get?_mapKeys_normalKey, hkind.type, Option.getD_some,
    lookup_shapes.mpr hkind.shape, hgiven, ok_bind, h, List.isEmpty_eq_false_iff.mpr hmissing,
    Bool.not_false, ↓reduceIte, throw_error, error_bind]

theorem ofValue_of_given
    (h : (fields.filter fun f => f.required && (given.lookup f.name).isNone) = [])
    (hspec : ofGiven? tag given = some spec) : ofValue place (.table entries) = .ok spec := by
  simp only [ofValue, get?_mapKeys_normalKey, hkind.type, Option.getD_some,
    lookup_shapes.mpr hkind.shape, hgiven, ok_bind, h, List.isEmpty_nil, Bool.not_true,
    Bool.false_eq_true, ↓reduceIte, hspec, pure_ok]

end OfKind

theorem ofValue_of_not_kind (h : ∀ tag fields, ¬ OfKind entries tag fields) (place : String) :
    ofValue place (.table entries) = .error
      (.unknownMatchType place ((written? entries "type").getD .null) (sortedNames tags)) := by
  simp only [ofValue, get?_mapKeys_normalKey]
  cases htype : written? entries "type" with
  | none => rfl
  | some v =>
    cases v with
    | str tag =>
      cases hfields : shapes.lookup tag with
      | none => simp only [Option.getD_some, hfields, throw_error]
      | some fields => exact absurd ⟨lookup_shapes.mp hfields, htype⟩ (h tag fields)
    | _ => rfl

section Checked

variable {given : Given}
  (hvalues : (Entries.mapKeys normalKey entries).erase "type" =
    given.map fun (name, checked) => (name, checked.value))
  (hkinds : ∀ name checked, (name, checked) ∈ given →
    ∃ f ∈ fields, f.name = name ∧ checked.kind = f.kind)

include hvalues in
theorem map_value_lookup (hname : name ≠ "type") :
    (given.lookup name).map FieldValue.value = written? entries name := by
  rw [← lookup_map_snd, ← hvalues, ← get?_mapKeys_normalKey]
  exact Entries.get?_erase hname

include hkinds in
theorem kind_lookup (hshape : (tag, fields) ∈ shapes) (hf : f ∈ fields)
    (hgiven : given.lookup f.name = some checked) : checked.kind = f.kind := by
  obtain ⟨before, after, rfl, -⟩ := List.lookup_eq_some_iff.mp hgiven
  obtain ⟨g, hg, hname, hkind⟩ := hkinds f.name checked (by simp)
  have hnodup := (List.nodup_cons.mp (fields_nodup _ hshape)).2
  rw [hkind, List.inj_on_of_nodup_map hnodup hg hf hname]

include hvalues hkinds in
theorem fits_of_checked (hkind : OfKind entries tag fields)
    (hgiven : ∀ f ∈ fields, f.required → (given.lookup f.name).isSome) :
    Fits entries tag fields := by
  refine { hkind with
    keys := fun e he => ?_, values := fun f hf v hv => ?_, given := fun f hf hdefault => ?_ }
  · by_cases htype : normalKey e.1 = "type"
    · exact .inl htype
    · obtain ⟨v, hv⟩ := Option.isSome_iff_exists.mp (isSome_written?.mpr ⟨e, he, rfl⟩)
      rw [← map_value_lookup hvalues htype, Option.map_eq_some_iff] at hv
      obtain ⟨checked, hchecked, -⟩ := hv
      obtain ⟨before, after, rfl, -⟩ := List.lookup_eq_some_iff.mp hchecked
      obtain ⟨f, hf, heq, -⟩ := hkinds (normalKey e.1) checked (by simp)
      exact .inr ⟨f, hf, heq⟩
  · rw [← map_value_lookup hvalues (fields_ne_type hkind.shape hf), Option.map_eq_some_iff] at hv
    obtain ⟨checked, hchecked, rfl⟩ := hv
    rw [← kind_lookup hkinds hkind.shape hf hchecked]
    exact admits_value checked
  · rw [← map_value_lookup hvalues (fields_ne_type hkind.shape hf), Option.isSome_map]
    exact hgiven f hf ((required_iff _ hkind.shape f hf).mpr hdefault)

end Checked

theorem ofValue_cases (place : String) (entries : Entries) :
    (∃ fields spec, ofValue place (.table entries) = .ok spec ∧ Fits entries spec.tag fields ∧
      spec.fields = fields.map fun f =>
        (f.name, filled spec.tag (written? entries f.name) f.name)) ∨
    (∃ problem, ofValue place (.table entries) = .error problem ∧ Fault place entries problem) := by
  by_cases hkind : ∃ tag fields, OfKind entries tag fields
  · obtain ⟨tag, fields, hkind⟩ := hkind
    obtain ⟨given, hgiven, hvalues, hkinds⟩ | ⟨name, v, hmem, hname, herror⟩ |
      ⟨f, hf, v, hmem, hadmits, herror⟩ :=
      checkFields_cases place tag fields ((Entries.mapKeys normalKey entries).erase "type")
    · by_cases hmissing : (fields.filter fun f => f.required && (given.lookup f.name).isNone) = []
      · have hrequired : ∀ f ∈ fields, f.required → (given.lookup f.name).isSome := by
          simpa using hmissing
        obtain ⟨spec, hspec, rfl, hfields⟩ := ofGiven?_filled hkind.shape
          (fun f hf checked => kind_lookup hkinds hkind.shape hf) hrequired
        have hfits := fits_of_checked hvalues hkinds hkind hrequired
        refine .inl ⟨fields, spec, ofValue_of_given hkind hgiven hmissing hspec, hfits, ?_⟩
        rw [hfields]
        refine List.map_congr_left fun f hf => ?_
        rw [map_value_lookup hvalues (fields_ne_type hkind.shape hf)]
      · refine .inr ⟨_, ofValue_of_missing hkind hgiven rfl hmissing, .missing hkind hmissing ?_⟩
        intro f
        simp only [List.mem_filter, Bool.and_eq_true, Option.isNone_iff_eq_none]
        refine and_congr_right fun hf => and_congr (required_iff _ hkind.shape f hf) ?_
        rw [← map_value_lookup hvalues (fields_ne_type hkind.shape hf), Option.map_eq_none_iff]
    · obtain ⟨hne, hv⟩ := mem_erase_mapKeys.mp hmem
      obtain ⟨e, he, rfl⟩ := isSome_written?.mp (Option.isSome_of_eq_some hv)
      exact .inr ⟨_, ofValue_of_error hkind herror, .key hkind he hne hname⟩
    · obtain ⟨-, hv⟩ := mem_erase_mapKeys.mp hmem
      exact .inr ⟨_, ofValue_of_error hkind herror, .value hkind hf hv hadmits⟩
  · have hnone : ∀ tag fields, ¬ OfKind entries tag fields := by simpa using hkind
    exact .inr ⟨_, ofValue_of_not_kind hnone place, .type hnone⟩

-- ---------------------------------------------------------------------------
-- Descriptions
-- ---------------------------------------------------------------------------

theorem ofValue_eq_ok : ofValue place (.table entries) = .ok spec ↔
    ∃ fields, Fits entries spec.tag fields ∧ spec.fields =
      fields.map fun f => (f.name, filled spec.tag (written? entries f.name) f.name) := by
  constructor
  · intro h
    obtain ⟨fields, spec', hok, hfits, hfields⟩ | ⟨problem, herror, -⟩ :=
      ofValue_cases place entries
    · obtain rfl := Except.ok.inj (h.symm.trans hok)
      exact ⟨fields, hfits, hfields⟩
    · cases h.symm.trans herror
  · rintro ⟨fields, hfits, hfields⟩
    obtain ⟨fields', spec', hok, hfits', hfields'⟩ | ⟨problem, -, hfault⟩ :=
      ofValue_cases place entries
    · obtain ⟨htag, rfl⟩ := hfits.toOfKind.unique hfits'.toOfKind
      have hknown : spec.tag ∈ tags := List.mem_map_of_mem hfits.shape
      rw [hok, ext_fields hknown htag (by rw [hfields, hfields', htag])]
    · exact absurd hfits (hfault.not_fits spec.tag fields)

theorem Fits.of_written? (h : Fits entries tag fields)
    (hwritten : ∀ name, written? entries name = written? entries' name) :
    Fits entries' tag fields where
  shape := h.shape
  type := by rw [← hwritten, h.type]
  keys e he := by
    have hname := isSome_written?.mpr ⟨e, he, rfl⟩
    rw [← hwritten] at hname
    obtain ⟨e', he', heq⟩ := isSome_written?.mp hname
    exact heq ▸ h.keys e' he'
  values f hf v hv := h.values f hf v (by rw [hwritten, hv])
  given f hf hdefault := by rw [← hwritten]; exact h.given f hf hdefault

theorem ofValue_ok_of_written? (hwritten : ∀ name, written? entries name = written? entries' name)
    (h : ofValue place (.table entries) = .ok spec) :
    ofValue place' (.table entries') = .ok spec := by
  obtain ⟨fields, hfits, hfields⟩ := ofValue_eq_ok.mp h
  exact ofValue_eq_ok.mpr ⟨fields, hfits.of_written? hwritten, by simp only [hfields, hwritten]⟩

theorem written?_perm (hnames : (entries.map (normalKey ·.1)).Nodup)
    (h : (entries.map (Prod.map normalKey id)).Perm (entries'.map (Prod.map normalKey id)))
    (name : String) : written? entries name = written? entries' name := by
  have hnames' : (entries'.map (normalKey ·.1)).Nodup := by
    have hperm := h.map Prod.fst
    rw [List.map_map, List.map_map] at hperm
    exact hperm.nodup_iff.mp hnames
  refine Option.ext fun v => ?_
  rw [written?_eq_some hnames, written?_eq_some hnames', h.mem_iff]

end Spec

end CodeAudit.Rule
