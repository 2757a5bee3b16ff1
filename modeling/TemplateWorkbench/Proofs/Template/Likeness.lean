import TemplateWorkbench.Proofs.Json.Forms
import TemplateWorkbench.Proofs.Template.Memory
import TemplateWorkbench.Template.Environment

/-!
# Likenesses are written and read back

Every value that can be shown has a likeness in plain data, at every depth: keys become texts, members of
sets are put in order, and what has no likeness of its own is represented by its written form.  The likeness
is its own likeness, and it is no deeper than the value.  So its JSON text is read as the likeness itself:
what a template prints as JSON can always be read.

The one value that is not printed as JSON is a missing one.  It is printed as nothing, which is no JSON text.
-/

namespace TemplateWorkbench.Template

open Results
open Run

namespace Value

variable {items : List Value} {entries : List (Value × Value)}

/-! ### Likenesses, part by part -/

theorem toJsonItems_eq_ok_iff {look : Appearance} {likenesses : List Json} :
    toJsonItems look items = .ok likenesses ↔
      List.Forall₂ (fun item json => item.toJson look = .ok json) items likenesses := by
  induction items generalizing likenesses with
  | nil =>
      rw [toJsonItems]
      cases likenesses <;> simp
  | cons item rest ih =>
      rw [toJsonItems, List.forall₂_cons_left_iff]
      simp only [bind_eq_ok_iff, ih, pure, Except.pure, Except.ok.injEq]
      grind

theorem toJson_list_eq_ok_iff {look : Appearance} {json : Json} :
    (Value.list items).toJson look = .ok json ↔
      ∃ likenesses, toJsonItems look items = .ok likenesses ∧ json = .list likenesses := by
  rw [toJson, bind_eq_ok_iff]
  simp only [pure, Except.pure, Except.ok.injEq, eq_comm]

theorem toJson_tuple (look : Appearance) (items : List Value) :
    (Value.tuple items).toJson look = (Value.list items).toJson look := by
  rw [toJson, toJson]

theorem toJson_group_eq_ok_iff {look : Appearance} {key : Value} {json : Json} :
    (Value.group key items).toJson look = .ok json ↔
      ∃ first likenesses, key.toJson look = .ok first ∧ toJsonItems look items = .ok likenesses ∧
        json = .list [first, .list likenesses] := by
  rw [toJson]
  simp only [bind_eq_ok_iff, pure, Except.pure, Except.ok.injEq]
  simp only [eq_comm (b := json), exists_and_left]

theorem toJson_dict_eq_ok_iff {look : Appearance} {json : Json} :
    (Value.dict entries).toJson look = .ok json ↔
      ∃ members, toJsonEntries look entries = .ok members ∧ json = .object (Json.lastWins members) := by
  rw [toJson, bind_eq_ok_iff]
  simp only [pure, Except.pure, Except.ok.injEq, eq_comm]

theorem toJson_set_eq_ok_iff {look : Appearance} {frozen : Bool} {json : Json} :
    (Value.set frozen items).toJson look = .ok json ↔
      ∃ likenesses sorted, toJsonItems look items = .ok likenesses ∧
        Json.sortedByForm? likenesses = some sorted ∧ json = .list sorted := by
  rw [toJson, bind_eq_ok_iff]
  constructor
  · rintro ⟨likenesses, hmembers, hsort⟩
    split at hsort
    · next sorted hsorted =>
        cases hsort
        exact ⟨likenesses, sorted, hmembers, hsorted, rfl⟩
    · cases hsort
  · rintro ⟨likenesses, sorted, hmembers, hsorted, rfl⟩
    exact ⟨likenesses, hmembers, by rw [hsorted]; rfl⟩

theorem jsonText_eq_ok_iff {look : Appearance} {value : Value} {text : String} :
    jsonText look value = .ok text ↔
      ∃ json, value.toJson look = .ok json ∧ Json.line json = .ok text := by
  rw [jsonText, bind_eq_ok_iff]
  refine exists_congr fun json => and_congr_right fun _ => ?_
  cases Json.line json with
  | ok line => simp [pure, Except.pure]
  | error fault => simp

/-! ### Values that can be shown -/

/-- Whether a value can be the key of a dictionary, and has a text. -/
def isKey (look : Appearance) (key : Value) : Bool :=
  key.keyFault?.isNone &&
    match key with
    | object kind address => (look.printed kind address).isOk
    | _ => true

mutual

/-- Whether a value can be shown: no integer in it has too many digits, keys can be keys, and what has a state
of its own has a written form. -/
def isShowable (look : Appearance) : Value → Bool
  | int value => Number.isShort value
  | list items | tuple items | set _ items => areShowable look items
  | group key members => isShowable look key && areShowable look members
  | dict entries => areShowableEntries look true true entries && entries.all fun entry => entry.1.isKey look
  | range start stop step => [start, stop, step].all Number.isShort
  | view part entries => areShowableEntries look (part != .values) (part != .keys) entries
  | object kind address => (look.written kind address).isOk
  | _ => true

/-- Whether all items can be shown. -/
def areShowable (look : Appearance) : List Value → Bool
  | [] => true
  | item :: rest => isShowable look item && areShowable look rest

/-- Whether all keys can be shown, if keys are looked at, and all values, if values are. -/
def areShowableEntries (look : Appearance) (keys values : Bool) : List (Value × Value) → Bool
  | [] => true
  | (key, value) :: rest =>
    (!keys || isShowable look key) && (!values || isShowable look value) &&
      areShowableEntries look keys values rest

end

theorem isOk_digits (value : Int) : (digits value).isOk = Number.isShort value := by
  rw [digits, ← Json.isSome_integerText?]
  cases Number.integerText? value <;> rfl

mutual

/-- What can be shown has a written form. -/
theorem isOk_written {value : Value} {look : Appearance} (hshow : value.isShowable look = true) :
    (value.written look).isOk = true := by
  match value with
  | .int value =>
      rw [isShowable] at hshow
      rw [written, isOk_digits, hshow]
  | .list items =>
      rw [isShowable] at hshow
      rw [written, isOk_bind_pure, isOk_writtenItems hshow]
  | .tuple items =>
      rw [isShowable] at hshow
      rw [written, isOk_bind_pure, isOk_writtenItems hshow]
  | .group key members =>
      rw [isShowable, Bool.and_eq_true] at hshow
      rw [written, isOk_bind_bind_pure, isOk_written hshow.1, isOk_writtenItems hshow.2]
      rfl
  | .dict entries =>
      rw [isShowable, Bool.and_eq_true] at hshow
      rw [written, isOk_bind_pure, isOk_writtenEntries hshow.1]
  | .set _ members =>
      rw [isShowable] at hshow
      rw [written, isOk_bind_pure, isOk_writtenItems hshow]
  | .range start stop step =>
      simp only [isShowable, List.all_cons, List.all_nil, Bool.and_true, Bool.and_eq_true] at hshow
      obtain ⟨hstart, hstop, hstep⟩ := hshow
      rw [written, isOk_bind_pure, isOk_mapM]
      split <;> simp [isOk_digits, hstart, hstop, hstep]
  | .view .keys entries =>
      rw [isShowable] at hshow
      rw [written, isOk_bind_pure, isOk_writtenKeys hshow]
  | .view .values entries =>
      rw [isShowable] at hshow
      rw [written, isOk_bind_pure, isOk_writtenValues hshow]
  | .view .items entries =>
      rw [isShowable] at hshow
      rw [written, isOk_bind_pure, isOk_writtenPairs hshow]
  | .object kind address =>
      rw [isShowable] at hshow
      exact hshow
  | .none | .bool _ | .double _ | .nan _ | .complex _ | .string _ | .markup _ | .bytes _ | .undefined _ _
  | .builtin _ | .method _ _ | .foreign _ _ => rfl

theorem isOk_writtenItems {items : List Value} {look : Appearance} (hshow : areShowable look items = true) :
    (writtenItems look items).isOk = true := by
  match items with
  | [] => rfl
  | item :: rest =>
      rw [areShowable, Bool.and_eq_true] at hshow
      rw [writtenItems, isOk_bind_bind_pure, isOk_written hshow.1, isOk_writtenItems hshow.2]
      rfl

theorem isOk_writtenEntries {entries : List (Value × Value)} {look : Appearance}
    (hshow : areShowableEntries look true true entries = true) :
    (writtenEntries look entries).isOk = true := by
  match entries with
  | [] => rfl
  | (key, value) :: rest =>
      simp only [areShowableEntries, Bool.not_true, Bool.false_or, Bool.and_eq_true] at hshow
      obtain ⟨⟨hkey, hvalue⟩, hrest⟩ := hshow
      rw [writtenEntries]
      exact isOk_bind (isOk_written hkey) fun _ _ => isOk_bind (isOk_written hvalue) fun _ _ => by
        rw [isOk_bind_pure, isOk_writtenEntries hrest]

theorem isOk_writtenKeys {entries : List (Value × Value)} {look : Appearance}
    (hshow : areShowableEntries look true false entries = true) : (writtenKeys look entries).isOk = true := by
  match entries with
  | [] => rfl
  | (key, _) :: rest =>
      simp only [areShowableEntries, Bool.not_true, Bool.false_or, Bool.not_false, Bool.true_or,
        Bool.and_true, Bool.and_eq_true] at hshow
      rw [writtenKeys, isOk_bind_bind_pure, isOk_written hshow.1, isOk_writtenKeys hshow.2]
      rfl

theorem isOk_writtenValues {entries : List (Value × Value)} {look : Appearance}
    (hshow : areShowableEntries look false true entries = true) :
    (writtenValues look entries).isOk = true := by
  match entries with
  | [] => rfl
  | (_, value) :: rest =>
      simp only [areShowableEntries, Bool.not_true, Bool.false_or, Bool.not_false, Bool.true_or,
        Bool.true_and, Bool.and_eq_true] at hshow
      rw [writtenValues, isOk_bind_bind_pure, isOk_written hshow.1, isOk_writtenValues hshow.2]
      rfl

theorem isOk_writtenPairs {entries : List (Value × Value)} {look : Appearance}
    (hshow : areShowableEntries look true true entries = true) : (writtenPairs look entries).isOk = true := by
  match entries with
  | [] => rfl
  | (key, value) :: rest =>
      simp only [areShowableEntries, Bool.not_true, Bool.false_or, Bool.and_eq_true] at hshow
      obtain ⟨⟨hkey, hvalue⟩, hrest⟩ := hshow
      rw [writtenPairs]
      exact isOk_bind (isOk_written hkey) fun _ _ => isOk_bind (isOk_written hvalue) fun _ _ => by
        rw [isOk_bind_pure, isOk_writtenPairs hrest]

end

/-- What can be shown and can be a key has a text. -/
theorem isOk_printed_key {key : Value} {look : Appearance} (hshow : key.isShowable look = true)
    (hkey : key.isKey look = true) : (key.printed look).isOk = true := by
  have hwritten := isOk_written hshow
  cases key with
  | undefined strict absence =>
      cases strict with
      | true => cases hkey
      | false => rfl
  | object kind address => exact hkey
  | string text | markup text => rfl
  | _ => simpa only [printed] using hwritten

/-! ### Depth -/

mutual

/-- How many containers are inside one another in the likeness of a value. -/
def depth : Value → Nat
  | list items | tuple items | set _ items => depthOfItems items + 1
  | group key members => max (depth key) (depthOfItems members + 1) + 1
  | dict entries => depthOfEntries entries + 1
  | _ => 0

/-- The depth of the deepest item. -/
def depthOfItems : List Value → Nat
  | [] => 0
  | item :: rest => max (depth item) (depthOfItems rest)

/-- The depth of the deepest value of an entry. -/
def depthOfEntries : List (Value × Value) → Nat
  | [] => 0
  | (_, value) :: rest => max (depth value) (depthOfEntries rest)

end

end Value

/-! ### Likenesses that can be read -/

/-- Plain data that is its own likeness, with no more containers inside one another than a limit. -/
structure Fits (limit : Nat) (json : Json) : Prop where
  canonical : json.Canonical
  shallow : json.depth ≤ limit

theorem Fits.mono {limit more : Nat} {json : Json} (hfits : Fits limit json) (hle : limit ≤ more) :
    Fits more json := ⟨hfits.canonical, hfits.shallow.trans hle⟩

theorem fits_string (text : String) : Fits 0 (.string text) := ⟨.string text, Nat.le_refl 0⟩

theorem fits_list {limit : Nat} {items : List Json} (hitems : ∀ item ∈ items, Fits limit item) :
    Fits (limit + 1) (.list items) := by
  refine ⟨.list fun item hmem => (hitems item hmem).canonical, ?_⟩
  rw [Json.depth]
  exact Nat.succ_le_succ (Json.depthOfItems_le fun item hmem => (hitems item hmem).shallow)

/-- Of two members with one name the later one stays, and so does what holds of all members. -/
theorem fits_object {limit : Nat} {members : List (String × Json)}
    (hmembers : ∀ member ∈ members, Fits limit member.2) :
    Fits (limit + 1) (.object (Json.lastWins members)) := by
  have hkept {member : String × Json} (hmem : member ∈ Json.lastWins members) : Fits limit member.2 := by
    obtain ⟨given, hgiven, heq⟩ := Json.exists_mem_of_mem_lastWins hmem
    exact heq ▸ hmembers given hgiven
  refine ⟨.object (Json.namesDistinct_lastWins members) fun member hmem => (hkept hmem).canonical, ?_⟩
  rw [Json.depth]
  exact Nat.succ_le_succ (Json.depthOfMembers_le fun member hmem => (hkept hmem).shallow)

theorem Fits.isSome_quoted? {limit : Nat} {json : Json} (hfits : Fits limit json) :
    json.quoted?.isSome = true := by
  obtain ⟨text, hquoted, -⟩ := (represents_ofJson json).written hfits.canonical .plain
  rw [hquoted, Option.isSome_some]

namespace Value

/-- What is represented by its written form. -/
theorem exists_toJson_of_written {value : Value} {look : Appearance} (hshow : value.isShowable look = true)
    (htoJson : value.toJson look = do pure (.string (← value.written look))) :
    ∃ json, value.toJson look = .ok json ∧ Fits value.depth json := by
  obtain ⟨text, htext⟩ := exists_of_isOk (isOk_written hshow)
  rw [htext] at htoJson
  exact ⟨.string text, htoJson, (fits_string text).mono (Nat.zero_le _)⟩

mutual

/-- What can be shown has a likeness, which is no deeper than the value. -/
theorem exists_toJson {value : Value} {look : Appearance} (hshow : value.isShowable look = true) :
    ∃ json, value.toJson look = .ok json ∧ Fits value.depth json := by
  match value with
  | .none => exact ⟨.null, rfl, .null, Nat.le_refl 0⟩
  | .bool value => exact ⟨.bool value, rfl, .bool value, Nat.le_refl 0⟩
  | .int value =>
      rw [isShowable, Number.isShort, Bool.not_eq_true'] at hshow
      exact ⟨.int value, rfl, .int hshow, Nat.le_refl 0⟩
  | .double value => exact ⟨.double value, rfl, .double value, Nat.le_refl 0⟩
  | .nan _ => exact ⟨.double .nan, rfl, .double .nan, Nat.le_refl 0⟩
  | .string text => exact ⟨.string text, rfl, fits_string text⟩
  | .markup text => exact ⟨.string text, rfl, fits_string text⟩
  | .list items =>
      rw [isShowable] at hshow
      obtain ⟨likenesses, hitems, hfits⟩ := exists_toJsonItems hshow
      exact ⟨.list likenesses, toJson_list_eq_ok_iff.mpr ⟨_, hitems, rfl⟩, fits_list hfits⟩
  | .tuple items =>
      rw [isShowable] at hshow
      obtain ⟨likenesses, hitems, hfits⟩ := exists_toJsonItems hshow
      exact ⟨.list likenesses, by rw [toJson_tuple, toJson_list_eq_ok_iff]; exact ⟨_, hitems, rfl⟩,
        fits_list hfits⟩
  | .group key members =>
      rw [isShowable, Bool.and_eq_true] at hshow
      obtain ⟨first, hkey, hfirst⟩ := exists_toJson hshow.1
      obtain ⟨likenesses, hmembers, hfits⟩ := exists_toJsonItems hshow.2
      refine ⟨.list [first, .list likenesses],
        toJson_group_eq_ok_iff.mpr ⟨_, _, hkey, hmembers, rfl⟩, ?_⟩
      -- The key stands beside the list of the members, so the deeper of the two counts.
      rw [depth]
      refine fits_list fun item hmem => ?_
      rcases List.mem_cons.mp hmem with rfl | hmem
      · exact hfirst.mono (Nat.le_max_left _ _)
      · rw [List.mem_singleton.mp hmem]
        exact (fits_list hfits).mono (Nat.le_max_right _ _)
  | .dict entries =>
      rw [isShowable, Bool.and_eq_true] at hshow
      obtain ⟨members, hentries, hfits⟩ :=
        exists_toJsonEntries hshow.1 fun entry hmem => List.all_eq_true.mp hshow.2 entry hmem
      exact ⟨_, toJson_dict_eq_ok_iff.mpr ⟨members, hentries, rfl⟩, fits_object hfits⟩
  | .set frozen members =>
      rw [isShowable] at hshow
      obtain ⟨likenesses, hmembers, hfits⟩ := exists_toJsonItems hshow
      -- The likenesses are ordered by their forms, and every likeness that fits has one.
      obtain ⟨sorted, hsorted, hperm⟩ :=
        Json.exists_sortedByForm? fun json hmem => (hfits json hmem).isSome_quoted?
      exact ⟨.list sorted, toJson_set_eq_ok_iff.mpr ⟨_, _, hmembers, hsorted, rfl⟩,
        fits_list fun json hmem => hfits json (hperm.mem_iff.mp hmem)⟩
  | .complex _ | .bytes _ | .range _ _ _ | .view _ _ | .undefined _ _ | .builtin _ | .method _ _
  | .object _ _ | .foreign _ _ => exact exists_toJson_of_written hshow rfl

theorem exists_toJsonItems {items : List Value} {look : Appearance} (hshow : areShowable look items = true) :
    ∃ likenesses, toJsonItems look items = .ok likenesses ∧
      ∀ json ∈ likenesses, Fits (depthOfItems items) json := by
  match items with
  | [] => exact ⟨[], rfl, nofun⟩
  | item :: rest =>
      rw [areShowable, Bool.and_eq_true] at hshow
      obtain ⟨first, hfirst, hfits⟩ := exists_toJson hshow.1
      obtain ⟨others, hothers, hfitsOthers⟩ := exists_toJsonItems hshow.2
      refine ⟨first :: others, ?_, ?_⟩
      · rw [toJsonItems, hfirst, hothers]
        rfl
      · rw [depthOfItems]
        intro json hmem
        rcases List.mem_cons.mp hmem with rfl | hmem
        · exact hfits.mono (Nat.le_max_left _ _)
        · exact (hfitsOthers json hmem).mono (Nat.le_max_right _ _)

theorem exists_toJsonEntries {entries : List (Value × Value)} {look : Appearance}
    (hshow : areShowableEntries look true true entries = true)
    (hkeys : ∀ entry ∈ entries, entry.1.isKey look = true) :
    ∃ members, toJsonEntries look entries = .ok members ∧
      ∀ member ∈ members, Fits (depthOfEntries entries) member.2 := by
  match entries with
  | [] => exact ⟨[], rfl, nofun⟩
  | (key, value) :: rest =>
      simp only [areShowableEntries, Bool.not_true, Bool.false_or, Bool.and_eq_true] at hshow
      obtain ⟨⟨hkey, hvalue⟩, hrest⟩ := hshow
      obtain ⟨name, hname⟩ := exists_of_isOk (isOk_printed_key hkey (hkeys _ List.mem_cons_self))
      obtain ⟨first, hfirst, hfits⟩ := exists_toJson hvalue
      obtain ⟨others, hothers, hfitsOthers⟩ :=
        exists_toJsonEntries hrest fun entry hmem => hkeys entry (List.mem_cons_of_mem _ hmem)
      refine ⟨(name, first) :: others, ?_, ?_⟩
      · rw [toJsonEntries, hname, hfirst, hothers]
        rfl
      · rw [depthOfEntries]
        intro member hmem
        rcases List.mem_cons.mp hmem with rfl | hmem
        · exact hfits.mono (Nat.le_max_left _ _)
        · exact (hfitsOthers member hmem).mono (Nat.le_max_right _ _)

end

end Value

/-! ### Printing JSON -/

variable {value : Value} {services : Services} {scene : Scene} {memory after : Memory} {look : Appearance}

/-- What a template prints as JSON for a value that is there can be read: it is read as the likeness of the
value, and the likeness is its own likeness. -/
theorem finalize_reads (hname : printsJson (memory.contextOf scene).name = true)
    (hthere : value.isUndefined = false) (hlook : Gives (services.lookFor value) memory look after)
    (hshow : value.isShowable look = true) (hdepth : value.depth ≤ Json.depthLimit) :
    ∃ text json, Gives (finalize services scene value) memory (.string text) after ∧
      value.toJson look = .ok json ∧ Json.read text = .ok json ∧
      ∀ other, (Value.ofJson json).toJson other = .ok json := by
  obtain ⟨json, hjson, hfits⟩ := Value.exists_toJson hshow
  obtain ⟨text, hline⟩ := hfits.canonical.line
  have htext : value.jsonText look = .ok text := Value.jsonText_eq_ok_iff.mpr ⟨json, hjson, hline⟩
  have hread : Json.read text = .ok json :=
    Json.read_of_write Json.isFaithful_line hfits.canonical.namesDistinctWithin
      (hfits.shallow.trans hdepth) hline
  exact ⟨text, json, gives_finalize hname hthere hlook htext, hjson, hread,
    fun other => (represents_ofJson json).toJson hfits.canonical other⟩

/-- A list with a set, octets under a number, the same number as a text, and a missing value under a tuple. -/
def mixedList : Value :=
  .list [.set true [.int 2, .string "2", .tuple [.nan 0, .double (.infinite true)]],
    .dict [(.int 1, .bytes [255]), (.string "1", .markup "<"),
      (.tuple [.none], .undefined true (.variable "x"))]]

/-- A memory with the context of a template that prints JSON. -/
def jsonMemory : Memory := { contexts := #[{ name := "t.json", given := [], escaping := 0 }] }

/-- What is printed for such a list can be read. -/
theorem finalize_reads_mixedList :
    ∃ text json,
      Gives (finalize (.within false (fun _ _ _ _ => pure false) 1) ⟨0, 0, 0, "t.json", "", none⟩ mixedList)
        jsonMemory (.string text) jsonMemory ∧
      mixedList.toJson (jsonMemory.look writingDepth) = .ok json ∧ Json.read text = .ok json ∧
      ∀ other, (Value.ofJson json).toJson other = .ok json :=
  finalize_reads (by decide +kernel) rfl rfl (by decide +kernel) (by decide +kernel)

/-- A missing value is printed as nothing also where JSON is printed, and nothing is no JSON text, while the
likeness of a missing value is a text. -/
theorem render_missing_printsNoJson :
    (Environment.ofSources false [("t.json", "\x7b\x7b x \x7d\x7d")]).toOption.map
        (fun environment => (environment.render "t.json" (.object [])).1) = some (.ok "") ∧
      (Json.read "").isOk = false ∧
      (Value.undefined false (.variable "x")).toJson .plain = .ok (.string "Undefined") :=
  ⟨by decide +kernel, by decide +kernel, rfl⟩

end TemplateWorkbench.Template
