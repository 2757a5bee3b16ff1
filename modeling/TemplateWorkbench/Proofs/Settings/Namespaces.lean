import TemplateWorkbench.Proofs.Settings.Keeping

/-!
# Stores that share a storage

Two stores on one storage keep apart if no key of the one is a key of the other.  A full key is the
namespace, a colon and the key, so there are three ways in which two of them can be one:

```text
space : key                    the same namespace and the same key
space : middle : name          the other namespace is  space:middle
other : middle : key           the namespace is  other:middle
```

So the answers of a store are those that it would give alone, whatever the other one is asked in between,
exactly if neither namespace is the other one with a colon and more behind it.  The namespaces `a` and
`a:b` differ and are not apart: what the first one keeps under `b:c` is read by the second one under `c`.

The invariant of the run is `SameUnder`: the two storages, with and without the requests of the other store,
agree under all keys of the namespace.
-/

namespace TemplateWorkbench

/-! ### Full keys -/

namespace SettingsStore

variable {space other key name : String}

/-- A namespace is another one with a colon and more behind it. -/
def IsWithin (space other : String) : Prop := ∃ middle, space = other ++ ":" ++ middle

/-- A namespace within another one is longer. -/
theorem IsWithin.ne (hwithin : IsWithin space other) : space ≠ other := by
  rintro rfl
  obtain ⟨middle, hspace⟩ := hwithin
  have hlength := congrArg String.length hspace
  have hcolon : ":".length = 1 := rfl
  rw [String.length_append, String.length_append, hcolon] at hlength
  omega

/-- Two full keys are one only for the same key of one namespace, or if one of the namespaces is within the
other. -/
theorem fullKey_eq_iff : fullKey space key = fullKey other name ↔
    (space = other ∧ key = name) ∨
      (∃ middle, other = space ++ ":" ++ middle ∧ key = middle ++ ":" ++ name) ∨
      (∃ middle, space = other ++ ":" ++ middle ∧ name = middle ++ ":" ++ key) := by
  have hsplit (space key : String) : fullKey space key = space ++ ":" ++ key := rfl
  have hcolon : ":".toList = [':'] := rfl
  rw [hsplit, hsplit]
  constructor
  · intro hsame
    have hlists : space.toList ++ ':' :: key.toList = other.toList ++ ':' :: name.toList := by
      simpa [hcolon] using congrArg String.toList hsame
    -- One of the two colons comes first, or they are the same; what is between them is the middle.
    rcases List.append_eq_append_iff.mp hlists with ⟨more, hother, hkey⟩ | ⟨more, hspace, hname⟩
    · cases more with
      | nil =>
          rw [List.append_nil] at hother
          exact .inl ⟨String.toList_inj.mp hother.symm, String.toList_inj.mp (List.cons.inj hkey).2⟩
      | cons first middle =>
          rw [List.cons_append] at hkey
          obtain ⟨rfl, hrest⟩ := List.cons.inj hkey
          refine .inr (.inl ⟨String.ofList middle, String.toList_inj.mp ?_, String.toList_inj.mp ?_⟩)
          · simp [hother, hcolon]
          · simp [hrest, hcolon]
    · cases more with
      | nil =>
          rw [List.append_nil] at hspace
          exact .inl ⟨String.toList_inj.mp hspace, (String.toList_inj.mp (List.cons.inj hname).2).symm⟩
      | cons first middle =>
          rw [List.cons_append] at hname
          obtain ⟨rfl, hrest⟩ := List.cons.inj hname
          refine .inr (.inr ⟨String.ofList middle, String.toList_inj.mp ?_, String.toList_inj.mp ?_⟩)
          · simp [hspace, hcolon]
          · simp [hrest, hcolon]
  · rintro (⟨rfl, rfl⟩ | ⟨middle, rfl, rfl⟩ | ⟨middle, rfl, rfl⟩)
    · rfl
    · simp only [String.append_assoc]
    · simp only [String.append_assoc]

/-- A namespace within another one has a key in common with it, -/
theorem IsWithin.exists_fullKey_eq (hwithin : IsWithin space other) :
    ∃ key name, fullKey space key = fullKey other name := by
  obtain ⟨middle, hmiddle⟩ := hwithin
  exact ⟨"", _, fullKey_eq_iff.mpr (.inr (.inr ⟨middle, hmiddle, rfl⟩))⟩

/-- and namespaces that are not within one another have none. -/
theorem fullKey_ne (hne : space ≠ other) (hspace : ¬ IsWithin space other)
    (hother : ¬ IsWithin other space) : fullKey space key ≠ fullKey other name := by
  intro hsame
  rcases fullKey_eq_iff.mp hsame with ⟨hspaces, -⟩ | ⟨middle, hwithin, -⟩ | ⟨middle, hwithin, -⟩
  · exact hne hspaces
  · exact hother ⟨middle, hwithin⟩
  · exact hspace ⟨middle, hwithin⟩

end SettingsStore

/-! ### The answers of one store -/

/-- The namespace of the store that is asked. -/
def SettingsRequest.space : SettingsRequest → String
  | get space _ _ => space
  | set space _ _ => space
  | remove space _ => space

/-- The key that the store is asked about. -/
def SettingsRequest.key : SettingsRequest → String
  | get _ key _ => key
  | set _ key _ => key
  | remove _ key => key

theorem SettingsRequest.fullKey_eq (request : SettingsRequest) :
    request.fullKey = SettingsStore.fullKey request.space request.key := by
  cases request <;> rfl

/-- Requests to the store of a namespace. -/
def requestsOf (space : String) (requests : List SettingsRequest) : List SettingsRequest :=
  requests.filter fun request => request.space == space

/-- What the store of a namespace answers in requests to several stores, one after another. -/
def Storage.answersOf (storage : Storage) (space : String) :
    List SettingsRequest → List SettingsAnswer
  | [] => []
  | request :: rest =>
    let others := (storage.ask request).1.answersOf space rest
    if request.space = space then (storage.ask request).2 :: others else others

namespace Storage

variable {storage alone : Storage} {space other : String}

/-- A request to a storage that works leaves a storage that works. -/
theorem IsWorking.ask (hworking : storage.IsWorking) (request : SettingsRequest) :
    (storage.ask request).1.IsWorking := by
  cases request with
  | get space key fallback => exact hworking
  | set space key value =>
      cases hwrite : Json.write .asciiLine value with
      | ok text => exact (hworking.ask_set space key hwrite).2
      | error fault =>
          rw [storage.ask_set_of_error hwrite]
          exact hworking
  | remove space key => exact (hworking.ask_remove space key).2

/-- On a storage that works a request leaves what is under other keys as it is, whether it succeeds or not. -/
theorem IsWorking.get?_ask_of_ne (hworking : storage.IsWorking) {request : SettingsRequest} {full : String}
    (hother : request.fullKey ≠ full) : (storage.ask request).1.get? full = storage.get? full := by
  cases request with
  | get space key fallback => rfl
  | set space key value =>
      cases hwrite : Json.write .asciiLine value with
      | ok text => exact Storage.get?_ask_of_ne (hworking.ask_set space key hwrite).1 hother
      | error fault => rw [storage.ask_set_of_error hwrite]
  | remove space key => exact Storage.get?_ask_of_ne (hworking.ask_remove space key).1 hother

/-! ### Storages that agree under the keys of a namespace -/

/-- Two storages that work have the same texts under all keys of a namespace. -/
structure SameUnder (space : String) (storage alone : Storage) : Prop where
  working : storage.IsWorking
  workingAlone : alone.IsWorking
  same : ∀ key, storage.get? (SettingsStore.fullKey space key) = alone.get? (SettingsStore.fullKey space key)

/-- A text that is put into both storages is in both of them. -/
theorem get?_set_congr {full text : String} {found : String}
    (hworking : storage.IsWorking) (halone : alone.IsWorking)
    (hsame : storage.get? found = alone.get? found) :
    (storage.set full text).1.get? found = (alone.set full text).1.get? found := by
  rw [get?_set (hworking.set full text).1, get?_set (halone.set full text).1, hsame]

theorem get?_remove_congr {full found : String} (hworking : storage.IsWorking) (halone : alone.IsWorking)
    (hsame : storage.get? found = alone.get? found) :
    (storage.remove full).1.get? found = (alone.remove full).1.get? found := by
  rw [get?_remove (hworking.remove full).1, get?_remove (halone.remove full).1, hsame]

/-- A request of the namespace is answered alike by both storages, and they agree after it. -/
theorem SameUnder.ask (hagree : SameUnder space storage alone) {request : SettingsRequest}
    (hspace : request.space = space) :
    (storage.ask request).2 = (alone.ask request).2 ∧
      SameUnder space (storage.ask request).1 (alone.ask request).1 := by
  obtain ⟨hworking, halone, hsame⟩ := hagree
  -- The answers first, and then the texts that are there after the request.
  refine ⟨?_, hworking.ask request, halone.ask request, fun name => ?_⟩
  · cases request with
    | get _ key fallback =>
        obtain rfl := hspace
        exact congrArg (fun found => SettingsAnswer.value (SettingsStore.answered key fallback found).1)
          (hsame key)
    | set _ key value =>
        cases hwrite : Json.write .asciiLine value with
        | error fault => rw [storage.ask_set_of_error hwrite, alone.ask_set_of_error hwrite]
        | ok text =>
            rw [storage.ask_set_of_write hwrite, alone.ask_set_of_write hwrite, (hworking.set _ text).1,
              (halone.set _ text).1]
    | remove _ key =>
        rw [storage.ask_remove, alone.ask_remove, (hworking.remove _).1, (halone.remove _).1]
  · cases request with
    | get _ key fallback => exact hsame name
    | set _ key value =>
        cases hwrite : Json.write .asciiLine value with
        | error fault =>
            rw [storage.ask_set_of_error hwrite, alone.ask_set_of_error hwrite]
            exact hsame name
        | ok text =>
            rw [storage.ask_set_of_write hwrite, alone.ask_set_of_write hwrite]
            exact get?_set_congr hworking halone (hsame name)
    | remove _ key =>
        rw [storage.ask_remove, alone.ask_remove]
        exact get?_remove_congr hworking halone (hsame name)

/-- After a request of a namespace that is apart both storages still agree. -/
theorem SameUnder.ask_other (hagree : SameUnder space storage alone) {request : SettingsRequest}
    (hapart : ∀ key, request.fullKey ≠ SettingsStore.fullKey space key) :
    SameUnder space (storage.ask request).1 alone :=
  ⟨hagree.working.ask request, hagree.workingAlone, fun key =>
    (hagree.working.get?_ask_of_ne (hapart key)).trans (hagree.same key)⟩

/-- Requests of namespaces that are apart do not show in the answers. -/
theorem SameUnder.answersOf (hagree : SameUnder space storage alone) {requests : List SettingsRequest}
    (hapart : ∀ request ∈ requests, request.space ≠ space →
      ∀ key, request.fullKey ≠ SettingsStore.fullKey space key) :
    storage.answersOf space requests = alone.answersOf space (requestsOf space requests) := by
  induction requests generalizing storage alone with
  | nil => rfl
  | cons request rest ih =>
      obtain ⟨hfirst, hrest⟩ := List.forall_mem_cons.mp hapart
      by_cases hspace : request.space = space
      · obtain ⟨hanswer, hnext⟩ := hagree.ask hspace
        have hkept : requestsOf space (request :: rest) = request :: requestsOf space rest :=
          List.filter_cons_of_pos (beq_iff_eq.mpr hspace)
        simp only [hkept, Storage.answersOf, hspace, if_true, hanswer, ih hnext hrest]
      · have hdropped : requestsOf space (request :: rest) = requestsOf space rest :=
          List.filter_cons_of_neg (by simpa using hspace)
        simp only [hdropped, Storage.answersOf, hspace, if_false]
        exact ih (hagree.ask_other (hfirst hspace)) hrest

/-! ### Namespaces that are not apart -/

/-- A key that two namespaces have in common: what the one keeps there changes what the other one reads. -/
theorem exists_answersOf_ne (hworking : storage.IsWorking) (hne : space ≠ other) {key name : String}
    (hsame : SettingsStore.fullKey space key = SettingsStore.fullKey other name) :
    ∃ requests : List SettingsRequest,
      (∀ request ∈ requests, request.space = space ∨ request.space = other) ∧
        storage.answersOf space requests ≠ storage.answersOf space (requestsOf space requests) := by
  -- The value that is kept is none that is there already.
  obtain ⟨value, text, hwrite, hread, hdiffers⟩ : ∃ value text, Json.write .asciiLine value = .ok text ∧
      Json.read text = .ok value ∧ (SettingsStore.get ⟨some storage, space⟩ key .null).1 ≠ .ok value := by
    by_cases hnull : (SettingsStore.get ⟨some storage, space⟩ key .null).1 = .ok .null
    · exact ⟨.bool true, "true", rfl, rfl, by rw [hnull]; nofun⟩
    · exact ⟨.null, "null", rfl, rfl, hnull⟩
  refine ⟨[.set other name value, .get space key .null], ?_, ?_⟩
  · intro request hmem
    simp only [List.mem_cons, List.not_mem_nil, or_false] at hmem
    rcases hmem with rfl | rfl
    · exact .inr rfl
    · exact .inl rfl
  · have hdone := (hworking.ask_set other name hwrite).1
    obtain ⟨found, hfound, htext⟩ := get?_ask_set hdone
    rw [hwrite] at hfound
    cases hfound
    rw [← hsame] at htext
    have hgot := SettingsStore.get_of_read .null htext hread
    have halone : requestsOf space [.set other name value, .get space key .null] =
        [.get space key .null] := by
      simp [requestsOf, SettingsRequest.space, Ne.symm hne]
    rw [halone]
    simp only [Storage.answersOf, SettingsRequest.space, Ne.symm hne, if_false, if_true]
    simp only [Storage.ask] at hgot ⊢
    rw [hgot]
    intro hequal
    injection hequal with hvalues
    injection hvalues with hvalues
    exact hdiffers hvalues.symm

/-- On a storage that works the answers of a store are those that it would give alone, whatever a second
store is asked in between, exactly if neither namespace is within the other. -/
theorem answersOf_alone_iff (hworking : storage.IsWorking) (space other : String) :
    (∀ requests : List SettingsRequest,
        (∀ request ∈ requests, request.space = space ∨ request.space = other) →
          storage.answersOf space requests = storage.answersOf space (requestsOf space requests)) ↔
      ¬ SettingsStore.IsWithin space other ∧ ¬ SettingsStore.IsWithin other space := by
  -- If one namespace is within the other, a key of each is one full key, and requests tell.
  constructor
  · intro hall
    have hapart {key name : String} (hne : space ≠ other) :
        SettingsStore.fullKey space key ≠ SettingsStore.fullKey other name := by
      intro hsame
      obtain ⟨requests, hspaces, hdiffer⟩ := exists_answersOf_ne hworking hne hsame
      exact hdiffer (hall requests hspaces)
    constructor
    · intro hwithin
      obtain ⟨key, name, hsame⟩ := hwithin.exists_fullKey_eq
      exact hapart hwithin.ne hsame
    · intro hwithin
      obtain ⟨name, key, hsame⟩ := hwithin.exists_fullKey_eq
      exact hapart hwithin.ne.symm hsame.symm
  · rintro ⟨hspace, hother⟩ requests hspaces
    refine SameUnder.answersOf ⟨hworking, hworking, fun key => rfl⟩ fun request hmem hne key => ?_
    have hsecond : request.space = other := (hspaces request hmem).resolve_left hne
    rw [request.fullKey_eq, hsecond]
    exact SettingsStore.fullKey_ne (hsecond ▸ hne) hother hspace

/-- A storage in a file, and two namespaces of which one begins with the other. -/
theorem answersOf_alone_missingFile : (Storage.file missingFile).IsWorking ∧
    ∀ requests : List SettingsRequest,
      (∀ request ∈ requests, request.space = "one" ∨ request.space = "onetwo:") →
        (Storage.file missingFile).answersOf "one" requests =
          (Storage.file missingFile).answersOf "one" (requestsOf "one" requests) := by
  refine ⟨isWorking_missingFile, (answersOf_alone_iff isWorking_missingFile "one" "onetwo:").mpr ⟨?_, ?_⟩⟩
  · rintro ⟨middle, hmiddle⟩
    have hlists := congrArg String.toList hmiddle
    simp [String.toList_append] at hlists
  · rintro ⟨middle, hmiddle⟩
    have hlists := congrArg String.toList hmiddle
    simp [String.toList_append] at hlists

/-- Two namespaces that differ: what one of them keeps is read by the other. -/
theorem answersOf_collidingSpaces : "a:b" ≠ "a" ∧ (Storage.memory []).IsWorking ∧
    (Storage.memory []).answersOf "a:b" [.set "a" "b:c" .null, .get "a:b" "c" (.bool true)] =
      [.value (.ok .null)] ∧
    (Storage.memory []).answersOf "a:b"
        (requestsOf "a:b" [.set "a" "b:c" .null, .get "a:b" "c" (.bool true)]) =
      [.value (.ok (.bool true))] := by
  refine ⟨by decide, trivial, rfl, rfl⟩

end Storage

end TemplateWorkbench
