import TemplateWorkbench.Proofs.Json.Reading
import TemplateWorkbench.Template.Operation
import TemplateWorkbench.Template.Value.Plain

/-!
# Values of plain data

A value that plain data becomes is printed and encoded as the data is, and so is the same value when
what is no number in it has got a name.  Both are told by a relation between data and values that
leaves the names open.

What has been read can be printed and encoded: its integers have few enough digits, and its objects have
distinct names.
-/

namespace TemplateWorkbench

namespace Json

/-- The text that a value is printed as: a text as it is, anything else in its written form. -/
def printed? : Json → Option String
  | .string text => some text
  | value => quoted? value

end Json

namespace Template

mutual

/-- A value is what plain data becomes, up to the names of what is no number. -/
inductive Represents : Json → Value → Prop
  | null : Represents .null .none
  | bool (value : Bool) : Represents (.bool value) (.bool value)
  | int (value : Int) : Represents (.int value) (.int value)
  | double (value : Double) : Represents (.double value) (.double value)
  | nan (name : Nat) : Represents (.double .nan) (.nan name)
  | string (text : String) : Represents (.string text) (.string text)
  | list {items : List Json} {values : List Value} (hitems : RepresentsItems items values) :
      Represents (.list items) (.list values)
  | object {members : List (String × Json)} {entries : List (Value × Value)}
      (hmembers : RepresentsMembers members entries) : Represents (.object members) (.dict entries)

/-- Values are what items become. -/
inductive RepresentsItems : List Json → List Value → Prop
  | nil : RepresentsItems [] []
  | cons {item : Json} {value : Value} {items : List Json} {values : List Value}
      (hitem : Represents item value) (hitems : RepresentsItems items values) :
      RepresentsItems (item :: items) (value :: values)

/-- Entries are what members become. -/
inductive RepresentsMembers : List (String × Json) → List (Value × Value) → Prop
  | nil : RepresentsMembers [] []
  | cons {name : String} {json : Json} {value : Value} {members : List (String × Json)}
      {entries : List (Value × Value)} (hvalue : Represents json value)
      (hmembers : RepresentsMembers members entries) :
      RepresentsMembers ((name, json) :: members) ((.string name, value) :: entries)

end

open Json (Canonical NamesDistinct)

/-! ### Names -/

mutual

/-- Plain data is told from the value that it becomes. -/
theorem represents_ofJson : (json : Json) → Represents json (Value.ofJson json)
  | .null => .null
  | .bool value => .bool value
  | .int value => .int value
  | .double value => .double value
  | .string text => .string text
  | .list items => .list (representsItems_ofJson items)
  | .object members => .object (representsMembers_ofJson members)

theorem representsItems_ofJson :
    (items : List Json) → RepresentsItems items (Value.ofJsonItems items)
  | [] => .nil
  | item :: rest => .cons (represents_ofJson item) (representsItems_ofJson rest)

theorem representsMembers_ofJson :
    (members : List (String × Json)) → RepresentsMembers members (Value.ofJsonMembers members)
  | [] => .nil
  | (_, json) :: rest => .cons (represents_ofJson json) (representsMembers_ofJson rest)

end

mutual

/-- To give names does not change what a value stands for. -/
theorem Represents.giveNames {json : Json} {value : Value} (hvalue : Represents json value)
    (next : Nat) : Represents json (value.giveNames.run next).1 := by
  cases hvalue with
  | null => exact .null
  | bool value => exact .bool value
  | int value => exact .int value
  | double value =>
      cases value with
      | nan => exact .nan next
      | _ => exact .double _
  | nan name => exact .nan name
  | string text => exact .string text
  | list hitems => exact .list (hitems.giveNames next)
  | object hmembers => exact .object (hmembers.giveNames next)

theorem RepresentsItems.giveNames {items : List Json} {values : List Value}
    (hitems : RepresentsItems items values) (next : Nat) :
    RepresentsItems items ((Value.giveAllNames values).run next).1 := by
  cases hitems with
  | nil => exact .nil
  | cons hitem hrest => exact .cons (hitem.giveNames next) (hrest.giveNames _)

theorem RepresentsMembers.giveNames {members : List (String × Json)}
    {entries : List (Value × Value)} (hmembers : RepresentsMembers members entries) (next : Nat) :
    RepresentsMembers members ((Value.giveEntryNames entries).run next).1 := by
  cases hmembers with
  | nil => exact .nil
  | cons hvalue hrest => exact .cons (hvalue.giveNames next) (hrest.giveNames _)

end

/-! ### Written forms -/

mutual

/-- A value is written as the data is that it stands for. -/
theorem Represents.written {json : Json} {value : Value} (hvalue : Represents json value)
    (hcanonical : Canonical json) (look : Appearance) :
    ∃ text, json.quoted? = some text ∧ value.written look = .ok text := by
  cases hvalue with
  | null => exact ⟨_, rfl, rfl⟩
  | bool value => exact ⟨_, rfl, rfl⟩
  | int value =>
      cases hcanonical with
      | int hshort =>
          refine ⟨Number.integerText value, ?_, ?_⟩
          · simp [Json.quoted?, Number.integerText?, hshort]
          · simp [Value.written, Value.digits, Number.integerText?, hshort]
  | double value => exact ⟨_, rfl, rfl⟩
  | nan name => exact ⟨_, rfl, rfl⟩
  | string text => exact ⟨_, rfl, rfl⟩
  | list hitems =>
      cases hcanonical with
      | list hall =>
          obtain ⟨texts, hquoted, hwritten⟩ := hitems.written hall look
          refine ⟨_, by rw [Json.quoted?, hquoted]; rfl, ?_⟩
          rw [Value.written, hwritten]
          rfl
  | object hmembers =>
      cases hcanonical with
      | object _ hall =>
          obtain ⟨texts, hquoted, hwritten⟩ := hmembers.written hall look
          refine ⟨_, by rw [Json.quoted?, hquoted]; rfl, ?_⟩
          rw [Value.written, hwritten]
          rfl

theorem RepresentsItems.written {items : List Json} {values : List Value}
    (hitems : RepresentsItems items values) (hall : ∀ item ∈ items, Canonical item)
    (look : Appearance) :
    ∃ texts, Json.quotedItems? items = some texts ∧ Value.writtenItems look values = .ok texts := by
  cases hitems with
  | nil => exact ⟨[], rfl, rfl⟩
  | cons hitem hrest =>
      obtain ⟨text, hquoted, hwritten⟩ := hitem.written (hall _ List.mem_cons_self) look
      obtain ⟨texts, hothers, hwrittenOthers⟩ :=
        hrest.written (fun other hother => hall other (List.mem_cons_of_mem _ hother)) look
      refine ⟨text :: texts, ?_, ?_⟩
      · rw [Json.quotedItems?, hquoted, hothers]
        rfl
      · rw [Value.writtenItems, hwritten, hwrittenOthers]
        rfl

theorem RepresentsMembers.written {members : List (String × Json)} {entries : List (Value × Value)}
    (hmembers : RepresentsMembers members entries)
    (hall : ∀ member ∈ members, Canonical member.2) (look : Appearance) :
    ∃ texts, Json.quotedMembers? members = some texts ∧
      Value.writtenEntries look entries = .ok texts := by
  cases hmembers with
  | nil => exact ⟨[], rfl, rfl⟩
  | @cons name _ _ _ _ hvalue hrest =>
      obtain ⟨text, hquoted, hwritten⟩ := hvalue.written (hall _ List.mem_cons_self) look
      obtain ⟨texts, hothers, hwrittenOthers⟩ :=
        hrest.written (fun other hother => hall other (List.mem_cons_of_mem _ hother)) look
      refine ⟨s!"{Text.quote name}: {text}" :: texts, ?_, ?_⟩
      · rw [Json.quotedMembers?, hquoted, hothers]
        rfl
      · rw [Value.writtenEntries, hwritten, hwrittenOthers]
        rfl

end

/-- A value is printed as the data is that it stands for. -/
theorem Represents.printed {json : Json} {value : Value} (hvalue : Represents json value)
    (hcanonical : Canonical json) (look : Appearance) :
    ∃ text, json.printed? = some text ∧ value.printed look = .ok text := by
  cases hvalue with
  | string text => exact ⟨text, rfl, rfl⟩
  | null => exact Represents.null.written hcanonical look
  | bool value => exact (Represents.bool value).written hcanonical look
  | int value => exact (Represents.int value).written hcanonical look
  | double value => exact (Represents.double value).written hcanonical look
  | nan name => exact (Represents.nan name).written hcanonical look
  | list hitems => exact (Represents.list hitems).written hcanonical look
  | object hmembers => exact (Represents.object hmembers).written hcanonical look

/-! ### JSON text -/

mutual

/-- The likeness of a value is the data that it stands for. -/
theorem Represents.toJson {json : Json} {value : Value} (hvalue : Represents json value)
    (hcanonical : Canonical json) (look : Appearance) : value.toJson look = .ok json := by
  cases hvalue with
  | null | bool | int | double | nan | string => rfl
  | list hitems =>
      cases hcanonical with
      | list hall =>
          rw [Value.toJson, hitems.toJson hall look]
          rfl
  | object hmembers =>
      cases hcanonical with
      | object hdistinct hall =>
          rw [Value.toJson, hmembers.toJson hall look]
          -- Distinct names keep every member in its place.
          simp only [bind, Except.bind, pure, Except.pure, Json.lastWins_eq_self hdistinct]

theorem RepresentsItems.toJson {items : List Json} {values : List Value}
    (hitems : RepresentsItems items values) (hall : ∀ item ∈ items, Canonical item)
    (look : Appearance) : Value.toJsonItems look values = .ok items := by
  cases hitems with
  | nil => rfl
  | cons hitem hrest =>
      rw [Value.toJsonItems, hitem.toJson (hall _ List.mem_cons_self) look,
        hrest.toJson (fun other hother => hall other (List.mem_cons_of_mem _ hother)) look]
      rfl

theorem RepresentsMembers.toJson {members : List (String × Json)} {entries : List (Value × Value)}
    (hmembers : RepresentsMembers members entries)
    (hall : ∀ member ∈ members, Canonical member.2) (look : Appearance) :
    Value.toJsonEntries look entries = .ok members := by
  cases hmembers with
  | nil => rfl
  | cons hvalue hrest =>
      rw [Value.toJsonEntries, hvalue.toJson (hall _ List.mem_cons_self) look,
        hrest.toJson (fun other hother => hall other (List.mem_cons_of_mem _ hother)) look]
      rfl

end

mutual

/-- There is no loop in plain data. -/
theorem Represents.loopsIn {json : Json} {value : Value} (hvalue : Represents json value) :
    Services.loopsIn value = [] := by
  cases hvalue with
  | null | bool | int | double | nan | string => rfl
  | list hitems => exact hitems.loopsIn
  | object hmembers => exact hmembers.loopsIn

theorem RepresentsItems.loopsIn {items : List Json} {values : List Value}
    (hitems : RepresentsItems items values) : Services.loopsIn.inItems values = [] := by
  cases hitems with
  | nil => rfl
  | cons hitem hrest => rw [Services.loopsIn.inItems, hitem.loopsIn, hrest.loopsIn, List.nil_append]

theorem RepresentsMembers.loopsIn {members : List (String × Json)}
    {entries : List (Value × Value)} (hmembers : RepresentsMembers members entries) :
    Services.loopsIn.inEntries entries = [] := by
  cases hmembers with
  | nil => rfl
  | cons hvalue hrest =>
      rw [Services.loopsIn.inEntries, hvalue.loopsIn, hrest.loopsIn, List.nil_append]

end

theorem Represents.isUndefined {json : Json} {value : Value} (hvalue : Represents json value) :
    value.isUndefined = false := by
  cases hvalue <;> rfl

theorem Represents.ownMarkup? {json : Json} {value : Value} (hvalue : Represents json value) :
    Services.ownMarkup? value = pure none := by
  cases hvalue <;> rfl

end Template

end TemplateWorkbench
