import TemplateWorkbench.Proofs.Json.Members
import TemplateWorkbench.Proofs.Template.Late.Methods
import TemplateWorkbench.Template.Test

/-!
# Faults of filters and tests

A filter or a test that there is stops only with late faults, and so does asking for one that there is not:
the fault about its name is raised when it is reached.  The filters and the tests get services that reach
each other, one level of streams deeper at a time.
-/

namespace TemplateWorkbench.Template

open Std.Do

set_option mvcgen.warning false

@[simp] theorem isLate_argumentFault (message : String) : (argumentFault message).IsLate := ⟨nofun, nofun⟩

@[simp] theorem isLate_attributeFault (value : Value) (id : String) : (attributeFault value id).IsLate :=
  ⟨nofun, nofun⟩

/-! ### Items -/

namespace Services

variable {services : Services} (hservices : services.AreLate)

include hservices

@[spec]
theorem late_itemKey (path caseSensitive : Value) : (ItemKey.of services path caseSensitive).IsLate := by
  unfold ItemKey.of
  mvcgen

@[spec]
theorem late_readKey (key : ItemKey) (item : Value) : (services.readKey key item).IsLate := by
  unfold readKey
  mvcgen
    invariants
    · post⟨fun _ => ⌜True⌝, fun fault => ⌜fault.IsLate⌝⟩
  all_goals exact fun _ => id

@[spec]
theorem late_chosenName (what : String) (id : Value) : (services.chosenName what id).IsLate := by
  unfold chosenName
  refine Run.StopsWith.bind (Run.late_liftM (Value.late_asKey id)) fun _ => ?_
  split <;> mvcgen <;> simp

@[spec]
theorem late_filterBy (escaping : Nat) (id : Value) (arguments : CallArguments) :
    (services.filterBy escaping id arguments).IsLate := by
  have hfilter := hservices.filter
  unfold filterBy
  mvcgen [hfilter]

@[spec]
theorem late_testBy (escaping : Nat) (id : Value) (arguments : CallArguments) :
    (services.testBy escaping id arguments).IsLate := by
  have htest := hservices.test
  unfold testBy
  mvcgen [htest]

end Services

/-! ### Numbers -/

namespace Quantity

@[spec]
theorem late_toWhole (value base : Value) : IsLate (toWhole value base) := by
  unfold toWhole
  mvcgen <;> simp

@[spec]
theorem late_readWhole (value default base : Value) : IsLate (readWhole value default base) := by
  have hdouble : IsLate (do Value.truncated (← value.toDouble)) := by mvcgen
  unfold readWhole
  split
  · exact late_ok _
  · split
    · split
      · exact late_ok _
      · split
        · exact late_ok _
        · exact late_error (isLate_iff.mp hdouble _ ‹_›)
    · exact late_error (isLate_iff.mp (late_toWhole value base) _ ‹_›)

@[spec]
theorem late_readReal (value default : Value) : IsLate (readReal value default) := by
  unfold readReal
  split
  · exact late_ok _
  · split
    · exact late_ok _
    · exact late_error (isLate_iff.mp value.late_toDouble _ ‹_›)

@[spec]
theorem late_roundReal (places : Int) (value : Double) : IsLate (roundReal places value) := by
  unfold roundReal
  mvcgen

@[spec]
theorem late_round (value places : Value) : IsLate (round value places) := by
  unfold round
  mvcgen <;> simp

@[spec]
theorem late_nextWhole (up : Bool) (value : Value) : IsLate (nextWhole up value) := by
  unfold nextWhole
  mvcgen <;> simp

@[spec]
theorem late_sizeText (binary : Bool) (bytes : Double) : IsLate (sizeText binary bytes) := by
  unfold sizeText
  mvcgen

variable {services : Services} (hservices : services.AreLate)

include hservices

@[spec]
theorem late_scaled (value places : Value) (up : Bool) : (roundBy.scaled services value places up).IsLate := by
  unfold roundBy.scaled
  mvcgen
  exact fun _ => hservices

@[spec]
theorem late_roundBy (value places method : Value) : (roundBy services value places method).IsLate := by
  unfold roundBy
  mvcgen <;> exact fun _ => hservices

end Quantity

/-! ### Streams -/

@[spec]
theorem late_mapStage (arguments : CallArguments) : IsLate (mapStage arguments) := by
  unfold mapStage
  mvcgen
  simp

@[spec]
theorem late_selectStage (keep byAttribute : Bool) (arguments : CallArguments) :
    IsLate (selectStage keep byAttribute arguments) := by
  unfold selectStage
  mvcgen

@[spec]
theorem late_lastBatch (size fill : Value) (collected : List Value) :
    (lastBatch size fill collected).IsLate := by
  unfold lastBatch
  mvcgen

@[spec]
theorem Value.late_bound (value : Value) : value.bound.IsLate := by
  unfold bound
  mvcgen

@[spec]
theorem late_freshStream (escaping : Nat) (subject : Value) (recipe : Recipe) :
    (freshStream escaping subject recipe).IsLate := by
  unfold freshStream
  mvcgen

@[spec]
theorem late_sourceStream (iterator : String) (escaping : Nat) (source : Source) :
    (sourceStream iterator escaping source).IsLate := by
  unfold sourceStream
  mvcgen

section Streams

variable {services : Services} (hservices : services.AreLate)

include hservices

@[spec]
theorem late_dealOut (subject count fill : Value) : (dealOut services subject count fill).IsLate := by
  unfold dealOut
  mvcgen
  simp

@[spec]
theorem late_start (subject : Value) (recipe : Recipe) : (recipe.start services subject).IsLate := by
  unfold Recipe.start
  mvcgen

@[spec]
theorem late_advance (address count : Nat) : (advance services address count).IsLate := by
  have hpasses := hservices.passes
  induction count with
  | zero => exact Run.stopsWith_pure none
  | succ count ih =>
      unfold advance
      mvcgen [hpasses, ih]

@[spec]
theorem Services.late_nextOfStream (address : Nat) : (services.nextOfStream address).IsLate := by
  unfold nextOfStream
  mvcgen

end Streams

/-! ### Sequences -/

namespace Sequence

@[spec]
theorem late_direction (value : Value) : IsLate (direction value) := by
  unfold direction
  mvcgen
  simp

@[spec]
theorem late_sortBy {read : Value → Run Value} (hread : ∀ item, (read item).IsLate) (reversed : Value)
    (items : List Value) : (sortBy read reversed items).IsLate := by
  unfold sortBy
  mvcgen [hread]

@[spec]
theorem late_runs (keyed : List (Value × Value)) : IsLate (runs keyed) := by
  induction keyed with
  | nil => exact late_ok []
  | cons item rest ih =>
      unfold runs
      mvcgen [ih]

variable {services : Services} (hservices : services.AreLate)

include hservices

@[spec]
theorem late_first (value : Value) : (first services value).IsLate := by
  unfold first
  mvcgen

@[spec]
theorem late_last (value : Value) : (last services value).IsLate := by
  unfold last
  mvcgen <;> simp

@[spec]
theorem late_any (value : Value) : (any services value).IsLate := by
  unfold any
  mvcgen
  simp

@[spec]
theorem late_reverse (escaping : Nat) (value : Value) : (reverse services escaping value).IsLate := by
  unfold reverse
  mvcgen
  · simp
  · exact isLate_iff.mp (Value.late_source _) _ ‹_›

@[spec]
theorem late_sort (value reversed caseSensitive path : Value) :
    (sort services value reversed caseSensitive path).IsLate := by
  unfold sort
  mvcgen
  exact fun _ => hservices

@[spec]
theorem late_sortEntries (value caseSensitive part reversed : Value) :
    (sortEntries services value caseSensitive part reversed).IsLate := by
  unfold sortEntries
  mvcgen <;> simp

@[spec]
theorem late_extreme (op : Value.OrderOp) (value caseSensitive path : Value) :
    (extreme services op value caseSensitive path).IsLate := by
  unfold extreme
  mvcgen
    invariants
    · post⟨fun _ => ⌜True⌝, fun fault => ⌜fault.IsLate⌝⟩
  all_goals exact fun _ => id

@[spec]
theorem late_group (value path default caseSensitive : Value) :
    (group services value path default caseSensitive).IsLate := by
  unfold group
  mvcgen
  exact fun _ => hservices

@[spec]
theorem late_sum (value path start : Value) : (sum services value path start).IsLate := by
  unfold sum
  mvcgen
    invariants
    · post⟨fun _ => ⌜True⌝, fun fault => ⌜fault.IsLate⌝⟩
  all_goals exact fun _ => id

@[spec]
theorem late_join (escaping : Nat) (value separator path : Value) :
    (join services escaping value separator path).IsLate := by
  unfold join
  mvcgen <;> exact fun _ => hservices

end Sequence

/-! ### Texts -/

namespace Wording

section Links

variable {style : Text.LinkStyle} {shorten : List Char → Except Fault (List Char)}
  (hshorten : ∀ shown, IsLate (shorten shown))

include hshorten

@[spec]
theorem late_link (middle : List Char) : IsLate (style.link shorten middle) := by
  unfold Text.LinkStyle.link
  mvcgen [hshorten]

@[spec]
theorem late_linkWord (text : List Char) : IsLate (style.linkWord shorten text) := by
  unfold Text.LinkStyle.linkWord
  mvcgen [hshorten]

@[spec]
theorem late_linkUpTo (fuel : Nat) (text : List Char) : IsLate (style.linkUpTo shorten fuel text) := by
  induction fuel generalizing text with
  | zero => exact late_ok text
  | succ fuel ih =>
      cases text with
      | nil => exact late_ok []
      | cons c rest =>
          unfold Text.LinkStyle.linkUpTo
          mvcgen [hshorten, ih]

@[spec]
theorem late_links (text : String) : IsLate (style.links shorten text) := by
  unfold Text.LinkStyle.links
  mvcgen [hshorten]

end Links

@[spec]
theorem late_shorten (limit : Value) (shown : List Char) : IsLate (linked.shorten limit shown) := by
  unfold linked.shorten
  mvcgen

@[spec]
theorem late_indentation (width : Value) : (indentation width).IsLate := by
  unfold indentation
  mvcgen

@[spec]
theorem late_plus (values : List Value) : IsLate (plus values) := by
  unfold plus
  split
  · exact late_ok _
  · exact late_foldlM (fun _ _ => Value.late_arithmetic _ _ _) _ _

@[spec]
theorem late_script (value indent : Value) : (script value indent).IsLate := by
  unfold script
  mvcgen

variable {services : Services} (hservices : services.AreLate)

include hservices

@[spec]
theorem late_joined (separator : Value) (texts : List Value) : (joined services separator texts).IsLate := by
  unfold joined
  mvcgen
  exact fun _ => hservices

@[spec]
theorem late_indented (subject width : Value) (first blank : Bool) :
    (indented services subject width first blank).IsLate := by
  cases subject
  all_goals
    unfold indented
    dsimp only [Value.tupleItems?]
    mvcgen <;> simp

@[spec]
theorem late_truncated (subject length killsWords ending leeway : Value) :
    (truncated services subject length killsWords ending leeway).IsLate := by
  unfold truncated
  mvcgen <;> simp

@[spec]
theorem late_wrapped (subject width breaksWords separator breaksHyphens : Value) :
    (wrapped services subject width breaksWords separator breaksHyphens).IsLate := by
  unfold wrapped
  mvcgen <;> simp [hservices]

@[spec]
theorem late_quotedPart (inQuery : Bool) (value : Value) : (quotedPart services inQuery value).IsLate := by
  unfold quotedPart
  mvcgen

@[spec]
theorem late_pairOf (value : Value) : (pairOf services value).IsLate := by
  unfold pairOf
  mvcgen <;> simp

@[spec]
theorem late_addressText (value : Value) : (addressText services value).IsLate := by
  unfold addressText
  mvcgen
  · exact fun _ => hservices
  · exact isLate_iff.mp (Value.late_source _) _ ‹_›

@[spec]
theorem late_relations (value : Value) : (relations services value).IsLate := by
  unfold relations
  mvcgen
  simp

@[spec]
theorem late_markAttribute (id : String) (value : Value) : (markAttribute services id value).IsLate := by
  unfold markAttribute
  mvcgen

@[spec]
theorem late_linked (escaping : Nat) (bound : Bound) : (linked services escaping bound).IsLate := by
  unfold linked
  mvcgen <;> simp

@[spec]
theorem late_attributes (escaping : Nat) (value spaced : Value) :
    (attributes services escaping value spaced).IsLate := by
  unfold attributes
  mvcgen <;> simp

@[spec]
theorem late_replaced (escaping : Nat) (subject old new count : Value) :
    (replaced services escaping subject old new count).IsLate := by
  unfold replaced
  mvcgen <;> exact fun _ => hservices

@[spec]
theorem late_withoutTags (value : Value) : (withoutTags services value).IsLate := by
  unfold withoutTags
  mvcgen

end Wording

/-! ### Filters -/

@[simp] theorem Filter.isLate_unknown (name : String) : (Filter.unknown name).IsLate := ⟨nofun, nofun⟩

/-- Whether a filter stops only with late faults. -/
structure Filter.IsLate (filter : Filter) : Prop where
  bind (arguments : CallArguments) : Template.IsLate (filter.bind arguments)
  apply {services : Services} (hservices : services.AreLate) (escaping : Nat) (bound : Bound) :
    (filter.apply services escaping bound).IsLate

namespace Filter

theorem isLate_named {signature : Signature} {apply : Services → Nat → Bound → Run Value}
    (happly : ∀ services, services.AreLate → ∀ escaping bound, (apply services escaping bound).IsLate) :
    (named signature apply).IsLate :=
  ⟨signature.late_bind, fun hservices => happly _ hservices⟩

theorem isLate_contextual {signature : Signature} {apply : Services → Nat → Bound → Run Value}
    (happly : ∀ services, services.AreLate → ∀ escaping bound, (apply services escaping bound).IsLate) :
    (contextual signature apply).IsLate :=
  ⟨signature.late_bind, fun hservices => happly _ hservices⟩

theorem isLate_single {id : String} {apply : Services → Value → Run Value}
    (happly : ∀ services, services.AreLate → ∀ value, (apply services value).IsLate) :
    (single id apply).IsLate :=
  isLate_named fun services hservices _ bound => happly services hservices (bound.value 0)

theorem isLate_counted {id : String} {apply : Services → Value → Run Value}
    (happly : ∀ services, services.AreLate → ∀ value, (apply services value).IsLate) :
    (counted id apply).IsLate where
  bind arguments := by
    unfold counted
    mvcgen
  apply hservices _ bound := happly _ hservices (bound.value 0)

theorem isLate_ofText (id : String) (f : String → String) : (ofText id f).IsLate := by
  refine isLate_named fun services hservices _ bound => ?_
  mvcgen

theorem isLate_openStream (id : String) (recipe : CallArguments → Recipe) : (openStream id recipe).IsLate :=
  isLate_contextual fun _ _ _ _ => late_freshStream _ _ _

theorem isLate_safe : safeFilter.IsLate := by
  refine isLate_single fun services hservices value => ?_
  mvcgen

theorem isLate_escape : escapeFilter.IsLate := by
  refine isLate_single fun services hservices value => ?_
  mvcgen

theorem isLate_default : sequenceFilters.defaultFilter.IsLate := by
  refine isLate_named fun services hservices _ bound => ?_
  mvcgen

theorem areLate_numberFilters : ∀ entry ∈ numberFilters, entry.2.IsLate := by
  simp only [numberFilters, List.forall_mem_cons]
  refine ⟨isLate_counted ?_, isLate_named ?_, isLate_named ?_, isLate_named ?_, isLate_named ?_,
    List.forall_mem_nil _⟩
  all_goals
    intros
    mvcgen
  all_goals simp [*]

theorem areLate_streamFilters : ∀ entry ∈ streamFilters, entry.2.IsLate := by
  simp only [streamFilters, List.forall_mem_cons]
  refine ⟨isLate_openStream _ _, isLate_openStream _ _, isLate_openStream _ _, isLate_openStream _ _,
    isLate_openStream _ _, isLate_named ?_, isLate_named ?_, isLate_named ?_, isLate_named ?_,
    List.forall_mem_nil _⟩
  all_goals exact fun _ _ _ _ => late_freshStream _ _ _

theorem areLate_sequenceFilters : ∀ entry ∈ sequenceFilters, entry.2.IsLate := by
  simp only [sequenceFilters, List.forall_mem_cons]
  refine ⟨isLate_named ?_, isLate_named ?_, isLate_contextual ?_, isLate_counted ?_, isLate_counted ?_,
    isLate_single ?_, isLate_named ?_, isLate_named ?_, isLate_named ?_, isLate_named ?_, isLate_named ?_,
    isLate_named ?_, isLate_named ?_, isLate_named ?_, isLate_named ?_, isLate_default, isLate_default,
    List.forall_mem_nil _⟩
  all_goals
    intros
    mvcgen
  all_goals simp [*]

theorem areLate_textFilters : ∀ entry ∈ textFilters, entry.2.IsLate := by
  simp only [textFilters, List.forall_mem_cons]
  refine ⟨isLate_ofText _ _, isLate_ofText _ _, isLate_ofText _ _, isLate_named ?_, isLate_named ?_,
    isLate_single ?_, isLate_safe, isLate_escape, isLate_escape, isLate_single ?_, isLate_single ?_,
    isLate_named ?_, isLate_named ?_, isLate_named ?_, isLate_named ?_, isLate_named ?_, isLate_named ?_,
    isLate_named ?_, isLate_single ?_, isLate_named ?_, isLate_named ?_, isLate_named ?_, isLate_single ?_,
    List.forall_mem_nil _⟩
  all_goals
    intros
    mvcgen
  all_goals simp [*]

/-- Every filter is late. -/
theorem isLate_of_ofName? {name : String} {filter : Filter} (hname : ofName? name = some filter) :
    filter.IsLate := by
  have hmem := Json.mem_of_lookup_eq_some hname
  simp only [all, List.mem_append, or_assoc] at hmem
  rcases hmem with hmem | hmem | hmem | hmem
  · exact areLate_textFilters _ hmem
  · exact areLate_numberFilters _ hmem
  · exact areLate_sequenceFilters _ hmem
  · exact areLate_streamFilters _ hmem

@[spec]
theorem late_applyNamed {services : Services} (hservices : services.AreLate) (escaping : Nat) (name : String)
    (arguments : CallArguments) : (applyNamed services escaping name arguments).IsLate := by
  unfold applyNamed
  split
  · mvcgen
    simp
  · have hlate := isLate_of_ofName? ‹_›
    have hbind := hlate.bind
    have happly := hlate.apply hservices
    mvcgen [hbind, happly]

end Filter

/-! ### Tests -/

@[simp] theorem Test.isLate_unknown (name : String) : (Test.unknown name).IsLate := ⟨nofun, nofun⟩

/-- Whether a test stops only with late faults. -/
structure Test.IsLate (test : Test) : Prop where
  bind (arguments : CallArguments) : Template.IsLate (test.bind arguments)
  apply {services : Services} (hservices : services.AreLate) (bound : Bound) :
    (test.apply services bound).IsLate

namespace Test

@[spec]
theorem late_isIterable (value : Value) : (isIterable value).IsLate := by
  unfold isIterable
  mvcgen
  exact isLate_iff.mp (Value.late_source _) _ ‹_›

@[spec]
theorem late_isSame (left right : Value) : (isSame left right).IsLate := by
  unfold isSame
  mvcgen

@[spec]
theorem late_isNameIn (names : List String) (value : Value) : (isNameIn names value).IsLate := by
  unfold isNameIn
  mvcgen

@[spec]
theorem late_leaves {services : Services} (hservices : services.AreLate) (value divisor : Value) (rest : Int) :
    (leaves services value divisor rest).IsLate := by
  unfold leaves
  mvcgen

theorem isLate_named {signature : Signature} {apply : Services → Bound → Run Bool}
    (happly : ∀ services, services.AreLate → ∀ bound, (apply services bound).IsLate) :
    (named signature apply).IsLate :=
  ⟨signature.late_bind, fun hservices => happly _ hservices⟩

theorem isLate_single {id : String} {apply : Services → Value → Run Bool}
    (happly : ∀ services, services.AreLate → ∀ value, (apply services value).IsLate) :
    (single id apply).IsLate :=
  isLate_named fun services hservices bound => happly services hservices (bound.value 0)

theorem isLate_ofKind (id : String) (p : Value → Bool) : (ofKind id p).IsLate :=
  isLate_single fun _ _ _ => Run.stopsWith_pure _

theorem isLate_comparing (name : String) (op : CompareOp) : (comparing name op).IsLate where
  bind arguments := by
    unfold comparing
    mvcgen
  apply hservices bound := Services.late_compare hservices op _ _

theorem areLate_kindTests : ∀ entry ∈ kindTests, entry.2.IsLate := by
  simp only [kindTests, List.forall_mem_cons]
  refine ⟨isLate_ofKind _ _, isLate_ofKind _ _, isLate_ofKind _ _, isLate_ofKind _ _, isLate_ofKind _ _,
    isLate_ofKind _ _, isLate_ofKind _ _, isLate_ofKind _ _, isLate_ofKind _ _, isLate_ofKind _ _,
    isLate_ofKind _ _, isLate_ofKind _ _, isLate_single ?_, ⟨?_, ?_⟩, isLate_single ?_,
    List.forall_mem_nil _⟩
  all_goals
    intros
    mvcgen

theorem areLate_contentTests : ∀ entry ∈ contentTests, entry.2.IsLate := by
  simp only [contentTests, List.forall_mem_cons]
  refine ⟨isLate_single ?_, isLate_single ?_, isLate_named ?_, isLate_single ?_, isLate_single ?_,
    List.forall_mem_nil _⟩
  all_goals
    intros
    mvcgen
  all_goals simp [*]

theorem areLate_relationTests : ∀ entry ∈ relationTests, entry.2.IsLate := by
  simp only [relationTests, List.forall_mem_cons]
  refine ⟨isLate_named ?_, isLate_named ?_, isLate_comparing _ _, isLate_comparing _ _, isLate_comparing _ _,
    isLate_comparing _ _, isLate_comparing _ _, isLate_comparing _ _, isLate_comparing _ _,
    isLate_comparing _ _, isLate_comparing _ _, isLate_comparing _ _, isLate_comparing _ _,
    isLate_comparing _ _, isLate_comparing _ _, isLate_comparing _ _, isLate_comparing _ _,
    List.forall_mem_nil _⟩
  all_goals
    intros
    mvcgen
  all_goals simp [*]

/-- Every test is late. -/
theorem isLate_of_ofName? {name : String} {test : Test} (hname : ofName? name = some test) : test.IsLate := by
  have hmem := Json.mem_of_lookup_eq_some hname
  simp only [all, plain, List.mem_append, List.mem_cons, List.not_mem_nil, or_false, or_assoc] at hmem
  rcases hmem with hmem | hmem | hmem | hmem | hmem
  · exact areLate_kindTests _ hmem
  · exact areLate_contentTests _ hmem
  · exact areLate_relationTests _ hmem
  · cases hmem
    exact isLate_named fun _ _ _ => late_isNameIn _ _
  · cases hmem
    exact isLate_named fun _ _ _ => late_isNameIn _ _

@[spec]
theorem late_applyNamed {services : Services} (hservices : services.AreLate) (name : String)
    (arguments : CallArguments) : (applyNamed services name arguments).IsLate := by
  unfold applyNamed
  split
  · mvcgen
    simp
  · have hlate := isLate_of_ofName? ‹_›
    have hbind := hlate.bind
    have happly := hlate.apply hservices
    mvcgen [hbind, happly]

end Test

/-- However deep streams may lie in one another, walking over values stops only with late faults if the
conditions of loops do. -/
theorem Services.areLate_within {strict : Bool} {passes : Target → LoopTest → Scene → Value → Run Bool}
    (hpasses : ∀ target test scene value, (passes target test scene value).IsLate) (depth : Nat) :
    (within strict passes depth).AreLate := by
  induction depth with
  | zero =>
      refine ⟨?_, ?_, ?_, hpasses⟩
      all_goals
        intros
        unfold within
        mvcgen
  | succ depth ih =>
      refine ⟨?_, ?_, ?_, hpasses⟩
      all_goals
        intros
        unfold within
        mvcgen
      all_goals exact fun _ => ih

end TemplateWorkbench.Template
