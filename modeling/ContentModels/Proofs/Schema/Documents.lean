import ContentModels.Proofs.Json.Layout
import ContentModels.Schema.Json

/-!
# Schemas are read back from their documents

The document of a schema leaves out the names and the bases that are not there, and has everything
else. So each schema is read back from its document as it was.

## Main statements

* `fills_entryIfSome` — an entry that may be left out.
* `Property.takes_document`, `ContentType.takes_document`, `Schema.takes_document` — the parts.
* `Schema.ofJson_toJson` — a schema is read back.
-/

namespace ContentModels

open Json Json.Record

/-- An entry that is left out leaves its field as it is, which then has no value. -/
theorem fills_entryIfSome {σ : Type} {r : Record σ} {field : Json.Field σ} {key : String}
    (update : Option String → σ) (value : Option String)
    (hfield : r.fields.find? (fun f => f.name == key) = some field)
    (hread : ∀ s, Takes (field.read (update none)) (.text s) (update (some s))) :
    Fills r (entryIfSome key value) (update none) (update value) := by
  cases value with
  | none => exact .nil _
  | some s => exact .cons hfield (hread s) (.nil _)

theorem Property.takes_document (p : Property) : Takes Property.record.read p.document p := by
  have hhandle : Fills Property.record [("alias", .text p.handle)] {} { handle := p.handle } :=
    .cons rfl (takes_text _ _).map (.nil _)
  have hname : Fills Property.record (entryIfSome "name" p.name) { handle := p.handle }
      { handle := p.handle, name := p.name } :=
    fills_entryIfSome (fun name => ({ handle := p.handle, name := name } : Property)) p.name rfl
      fun s => (takes_optional (some s)).map
  have hrest : Fills Property.record
      [("valueType", .text p.valueType), ("ignored", .bool p.ignored)]
      { handle := p.handle, name := p.name } p :=
    .cons rfl (takes_text _ _).map (.cons rfl (takes_bool _).map (.nil _))
  refine takes_read ((hhandle.append hname).append hrest) ?_ ?_
  · cases p.name <;> simp [entryIfSome]
  · cases p.name <;> simp [entryIfSome, Property.record]

theorem ContentType.takes_document (t : ContentType) :
    Takes ContentType.record.read t.document t := by
  have hhandle : Fills ContentType.record [("alias", .text t.handle)] {} { handle := t.handle } :=
    .cons rfl (takes_text _ _).map (.nil _)
  have hname : Fills ContentType.record (entryIfSome "name" t.name) { handle := t.handle }
      { handle := t.handle, name := t.name } :=
    fills_entryIfSome (fun name => ({ handle := t.handle, name := name } : ContentType)) t.name rfl
      fun s => (takes_optional (some s)).map
  have hkind : Fills ContentType.record [("kind", .text t.kind.name)]
      { handle := t.handle, name := t.name }
      { handle := t.handle, name := t.name, kind := t.kind } :=
    .cons rfl (takes_choice (by cases t.kind <;> rfl)).map (.nil _)
  have hbase : Fills ContentType.record (entryIfSome "base" t.base)
      { handle := t.handle, name := t.name, kind := t.kind }
      { handle := t.handle, name := t.name, kind := t.kind, base := t.base } :=
    fills_entryIfSome (fun base =>
      ({ handle := t.handle, name := t.name, kind := t.kind, base := base } : ContentType)) t.base
      rfl fun s => (takes_optional (some s)).map
  have hrest : Fills ContentType.record
      [("mixins", .ofTexts t.mixins), ("properties", .array (t.properties.map Property.document))]
      { handle := t.handle, name := t.name, kind := t.kind, base := t.base } t :=
    .cons rfl (takes_list fun mixin _ => takes_text _ mixin).map
      (.cons rfl (takes_list fun p _ => p.takes_document).map (.nil _))
  refine takes_read ((((hhandle.append hname).append hkind).append hbase).append hrest) ?_ ?_
  · cases t.name <;> cases t.base <;> simp [entryIfSome]
  · cases t.name <;> cases t.base <;> simp [entryIfSome, ContentType.record]

theorem Schema.takes_document (s : Schema) : Takes Schema.record.read s.document s :=
  takes_read (.cons rfl (takes_list fun t _ => t.takes_document).map (.nil _)) (by simp)
    (by simp [Schema.record])

/-- A schema is read back from the document that it is written to. -/
theorem Schema.ofJson_toJson (s : Schema) : Schema.ofJson s.toJson = .ok s := s.takes_document.run

end ContentModels
