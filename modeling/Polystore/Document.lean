import Polystore.Error

/-!
# Documents

A document is a JSON object under an id.  A store keeps it with the id in a
reserved field, which readers never see and writers may not use; the field also
settles the order of documents that a query leaves open.
-/

namespace Polystore.Document

/-- The field that holds the id of a stored document. -/
def reservedField : String := "__id"

/-- What kind of value something is, for messages. -/
def kindName : Json → String
  | .null => "null"
  | .bool _ => "a boolean"
  | .number _ => "a number"
  | .string _ => "a string"
  | .array _ => "an array"
  | .object _ => "an object"

/-- The stored form of a document. -/
def withId (id : String) : Json → Except Error Json
  | .object fields =>
      if Keyed.contains fields reservedField then .error (.reservedField id)
      else .ok (.object (Keyed.insert reservedField (.string id) fields))
  | other => .error (.notAnObject id (kindName other))

/-- The document of a stored form. -/
def withoutId : Json → Json
  | .object fields => .object (Keyed.erase reservedField fields)
  | other => other

/-- The id in a stored form. -/
def idOf? (stored : Json) : Option String :=
  (stored.field? reservedField).bind Json.string?

/-- Read a document as a value of another type. -/
def readAs {α : Type} (read : Json → Option α) (document : Json) : Except Error α :=
  match read document with
  | some value => .ok value
  | none => .error .malformed

/-- A value has a stored form exactly if it is an object without the reserved
field. -/
theorem withId_eq_ok_iff (id : String) (value stored : Json) :
    withId id value = .ok stored ↔
      ∃ fields : Keyed Json, value = .object fields ∧
        Keyed.contains fields reservedField = false ∧
        stored = .object (Keyed.insert reservedField (.string id) fields) := by
  cases value with
  | object fields =>
      simp only [withId]
      split
      · next reserved =>
        simp only [reduceCtorEq, Json.object.injEq, false_iff, not_exists, not_and]
        rintro _ rfl absent
        simp [absent] at reserved
      · next absent =>
        simp only [Except.ok.injEq, Json.object.injEq]
        constructor
        · rintro rfl
          exact ⟨fields, rfl, by simpa using absent, rfl⟩
        · rintro ⟨_, rfl, _, rfl⟩
          rfl
  | _ => simp [withId]

/-- The id of a stored document is the one it was stored under. -/
theorem idOf?_of_withId {id : String} {value stored : Json} (h : withId id value = .ok stored) :
    idOf? stored = some id := by
  obtain ⟨fields, -, -, rfl⟩ := (withId_eq_ok_iff id value stored).mp h
  simp [idOf?, Json.field?, Json.string?]

end Polystore.Document
