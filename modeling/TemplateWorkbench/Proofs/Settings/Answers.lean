import TemplateWorkbench.Proofs.Json.Depth
import TemplateWorkbench.Settings.Storage

/-!
# What a store makes of the answers it is given

A store does not trust what it keeps its settings in: an answer may be any text, no text, or a fault.
Whatever it is, a read comes to the value of a text that can be read, and to the fallback otherwise; only
a text that is nested too deeply for the reader gets through to whoever asked.  A write is reported as
done exactly if it was done, and a report of a failure says what the failure said.
-/

namespace TemplateWorkbench

open Results

/-- A text whose containers are nested too deeply for the reader. -/
def Json.IsTooDeep (text : String) : Prop :=
  ∃ container, Json.read text = .error (.tooDeep container)

/-- A text with no more brackets than containers may be open is not nested too deeply. -/
theorem Json.not_isTooDeep {text : String} (hfew : openings text.toList ≤ depthLimit) :
    ¬ IsTooDeep text := by
  rintro ⟨container, hread⟩
  have hmany := lt_openings_of_tooDeep hread
  omega

namespace SettingsStore

variable {key : String} {fallback value : Json}

/-- The value that a storage's answer stands for: that of a text that can be read. -/
def settingOf : Except StorageFault (Option String) → Option Json
  | .ok (some text) => (Json.read text).toOption
  | _ => none

/-- An answer whose text, if it has one, is not nested too deeply. -/
def IsFlat (answer : Except StorageFault (Option String)) : Prop :=
  ∀ text, answer = .ok (some text) → ¬ Json.IsTooDeep text

/-- A read gives the value that the answer stands for or else the fallback, unless the answer is nested
too deeply. -/
theorem answered_eq_ok_iff (answer : Except StorageFault (Option String)) :
    (answered key fallback answer).1 = .ok value ↔
      IsFlat answer ∧ value = (settingOf answer).getD fallback := by
  match answer with
  | .error fault => simp [answered, settingOf, IsFlat, eq_comm]
  | .ok none => simp [answered, settingOf, IsFlat, eq_comm]
  | .ok (some text) =>
      have hflat : IsFlat (.ok (some text)) ↔ ¬ Json.IsTooDeep text := by simp [IsFlat]
      rw [hflat, answered, settingOf, Json.IsTooDeep]
      cases hread : Json.read text with
      | ok found => simp [Except.toOption, eq_comm]
      | error fault =>
          cases fault with
          | tooDeep container => simp
          | malformed what remaining => simp [Except.toOption, eq_comm]
          | tooLong digits => simp [Except.toOption, eq_comm]

theorem isOk_answered_iff (answer : Except StorageFault (Option String)) :
    (answered key fallback answer).1.isOk = true ↔ IsFlat answer := by
  constructor
  · intro hok
    obtain ⟨found, hfound⟩ := exists_of_isOk hok
    exact ((answered_eq_ok_iff answer).mp hfound).1
  · intro hflat
    rw [(answered_eq_ok_iff answer).mpr ⟨hflat, rfl⟩]
    rfl

/-- A report says what went wrong, if anything did. -/
theorem error_report (what key : String) (result : Except StorageFault Unit) :
    (report what key result).1.error = (error? result).map StorageFault.message := by
  cases result with
  | ok done => rfl
  | error fault => rfl

/-- A value is kept exactly if it has a text and the storage keeps the text. -/
theorem isOk_set_iff {storage : Storage} {space : String} :
    (set ⟨some storage, space⟩ key value).2.1.isOk = true ↔
      ∃ text, Json.write .asciiLine value = .ok text ∧
        (storage.set (keyFor ⟨some storage, space⟩ key) text).2 = .ok () := by
  unfold set setEncoded
  cases hwrite : Json.write .asciiLine value with
  | error fault => simp [failure, Persisted.isOk]
  | ok text =>
      cases hresult : (storage.set (keyFor ⟨some storage, space⟩ key) text).2 with
      | error fault => simp [hresult, report, failure, Persisted.isOk]
      | ok done => simp [hresult, report, Persisted.isOk]

/-- A key is taken away exactly if the storage takes it away. -/
theorem isOk_remove_iff {storage : Storage} {space : String} :
    (remove ⟨some storage, space⟩ key).2.1.isOk = true ↔
      (storage.remove (keyFor ⟨some storage, space⟩ key)).2 = .ok () := by
  unfold remove
  cases hresult : (storage.remove (keyFor ⟨some storage, space⟩ key)).2 with
  | error fault => simp [hresult, report, failure, Persisted.isOk]
  | ok done => simp [hresult, report, Persisted.isOk]

/-- Whatever a store is answered, a read comes to the value or the fallback unless the text is nested too
deeply, which takes more brackets than containers may be open.  Every failure of a write is reported,
and without a storage there is nothing but the fallback and failures. -/
theorem answers_settled (key : String) (fallback : Json) :
    (∀ answer, ((answered key fallback answer).1.isOk = true ↔ IsFlat answer) ∧
      ∀ value, (answered key fallback answer).1 = .ok value → value = (settingOf answer).getD fallback) ∧
    (∀ text : String, Json.openings text.toList ≤ Json.depthLimit → IsFlat (.ok (some text))) ∧
    (∀ what result, (report what key result).1.error = (error? result).map StorageFault.message) ∧
    (∀ space, (get ⟨none, space⟩ key fallback).1 = .ok fallback ∧
      (∀ value, (set ⟨none, space⟩ key value).2.1.isOk = false) ∧
        (remove ⟨none, space⟩ key).2.1.isOk = false) ∧
    ∀ storage space, get ⟨some storage, space⟩ key fallback =
        answered key fallback (storage.get? (keyFor ⟨some storage, space⟩ key)) ∧
      (∀ value, (set ⟨some storage, space⟩ key value).2.1.isOk = true ↔
        ∃ text, Json.write .asciiLine value = .ok text ∧
          (storage.set (keyFor ⟨some storage, space⟩ key) text).2 = .ok ()) ∧
      ((remove ⟨some storage, space⟩ key).2.1.isOk = true ↔
        (storage.remove (keyFor ⟨some storage, space⟩ key)).2 = .ok ()) := by
  refine ⟨fun answer => ⟨isOk_answered_iff answer, fun value hvalue => ?_⟩, fun text hfew => ?_,
    fun what => error_report what key, fun space => ⟨rfl, fun value => rfl, rfl⟩,
    fun storage space => ⟨rfl, fun value => isOk_set_iff, isOk_remove_iff⟩⟩
  · exact ((answered_eq_ok_iff answer).mp hvalue).2
  · rintro other ⟨rfl⟩
    exact Json.not_isTooDeep hfew

/-- A storage that holds one text. -/
def storageOf (text : String) : Storage := .memory [("template-playground:k", text)]

theorem get_storageOf (text : String) : get ⟨some (storageOf text), defaultSpace⟩ "k" (.int 0) =
    answered "k" (.int 0) (.ok (some text)) := rfl

/-- Under a text of very many brackets a read gives no fallback. -/
theorem get_manyBrackets :
    (get ⟨some (storageOf (String.ofList (List.replicate 5000 '['))), defaultSpace⟩ "k"
      (.int 0)).1.isOk = false := by
  have hread := Json.read_brackets 5000 (by decide) []
  have hdeep : Json.IsTooDeep (String.ofList (List.replicate 5000 '[')) := by
    rw [List.append_nil] at hread
    exact ⟨.list, hread⟩
  rw [get_storageOf, Bool.eq_false_iff]
  intro hok
  exact (isOk_answered_iff _).mp hok _ rfl hdeep

end SettingsStore

end TemplateWorkbench
