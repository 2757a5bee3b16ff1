import TemplateWorkbench.Json.Reader
import TemplateWorkbench.Proofs.Results

/-!
# How deep a text is nested

The reader gives up on the nesting of a text only where more containers are open at once than it allows.
Every container that is open has a bracket of its own, so a text with few brackets is never too deep.  A
text that begins with very many of them always is, whatever comes after them.
-/

namespace TemplateWorkbench.Json

/-- Whether a character opens a container. -/
def isOpening (c : Char) : Bool := c == '[' || c == '\x7b'

/-- How many characters of a text open a container, be it inside quotes. -/
def openings (text : List Char) : Nat := text.countP isOpening

theorem openings_le_of_suffix {rest text : List Char} (hsuffix : rest <:+ text) :
    openings rest ≤ openings text := hsuffix.sublist.countP_le

/-! ### What reading comes to -/

/-- Reading from the front of a text leaves an end of it or has a fault, and the nesting is at fault only
if more brackets open than containers may be opened. -/
inductive Follows {α : Type} (depth : Nat) (text : List Char) :
    Except ReadFault (α × List Char) → Prop
  | ok {value : α} {rest : List Char} (hend : rest <:+ text) : Follows depth text (.ok (value, rest))
  | malformed (what : Malformation) (remaining : Nat) :
      Follows depth text (.error (.malformed what remaining))
  | tooLong (digits : Nat) : Follows depth text (.error (.tooLong digits))
  | tooDeep {container : Container} (hdeep : depth < openings text) :
      Follows depth text (.error (.tooDeep container))

variable {α : Type} {depth : Nat} {text larger : List Char}
  {result : Except ReadFault (α × List Char)}

/-- What is before the text does not matter. -/
theorem Follows.of_suffix (hfollows : Follows depth text result) (hsuffix : text <:+ larger) :
    Follows depth larger result := by
  cases hfollows with
  | ok hend => exact .ok (hend.trans hsuffix)
  | malformed what remaining => exact .malformed what remaining
  | tooLong digits => exact .tooLong digits
  | tooDeep hdeep => exact .tooDeep (Nat.lt_of_lt_of_le hdeep (openings_le_of_suffix hsuffix))

/-- Behind the bracket of a container one container less may be opened. -/
theorem Follows.cons {c : Char} (hopening : isOpening c = true) (hfollows : Follows depth text result) :
    Follows (depth + 1) (c :: text) result := by
  cases hfollows with
  | ok hend => exact .ok (hend.trans (List.suffix_cons c text))
  | malformed what remaining => exact .malformed what remaining
  | tooLong digits => exact .tooLong digits
  | tooDeep hdeep =>
      refine .tooDeep ?_
      have hcount : openings (c :: text) = openings text + 1 := List.countP_cons_of_pos hopening
      omega

/-- What is made of the value does not matter. -/
theorem Follows.map {β : Type} (make : α → β) (hfollows : Follows depth text result) :
    Follows depth text (result.map fun (value, rest) => (make value, rest)) := by
  cases hfollows with
  | ok hend => exact .ok hend
  | malformed what remaining => exact .malformed what remaining
  | tooLong digits => exact .tooLong digits
  | tooDeep hdeep => exact .tooDeep hdeep

/-- A fault stays one, whatever was to be read. -/
theorem Follows.fault {β : Type} {fault : ReadFault}
    (hfollows : Follows depth text (.error fault : Except ReadFault (α × List Char))) :
    Follows depth text (.error fault : Except ReadFault (β × List Char)) := by
  cases hfollows with
  | malformed what remaining => exact .malformed what remaining
  | tooLong digits => exact .tooLong digits
  | tooDeep hdeep => exact .tooDeep hdeep

theorem Follows.suffix {value : α} {rest : List Char}
    (hfollows : Follows depth text (.ok (value, rest))) : rest <:+ text := by
  cases hfollows with
  | ok hend => exact hend

/-! ### Texts, numbers and words -/

theorem skipBlanks_suffix (text : List Char) : skipBlanks text <:+ text := List.dropWhile_suffix _

/-- What comes after blanks and one character. -/
theorem suffix_of_skipBlanks {c : Char} {rest others : List Char} (hrest : rest <:+ text)
    (hblanks : skipBlanks rest = c :: others) : others <:+ text := by
  have hend := skipBlanks_suffix rest
  rw [hblanks] at hend
  exact ((List.suffix_cons c others).trans hend).trans hrest

theorem follows_readText (depth opened : Nat) (done text : List Char) :
    Follows depth text (readText opened done text) := by
  fun_induction readText opened done text with
  | case1 | case3 | case4 | case5 | case10 | case12 | case13 => exact .malformed _ _
  | case2 => exact .ok (List.suffix_cons _ _)
  -- A code escape for one unit, and for a pair.
  | case6 _ a b c d _ _ _ _ _ _ ih => exact ih.of_suffix ⟨['\\', 'u', a, b, c, d], rfl⟩
  | case8 _ a b c d _ _ _ _ _ _ _ _ ih => exact ih.of_suffix ⟨['\\', 'u', a, b, c, d], rfl⟩
  | case9 _ a b c d _ _ _ _ _ ih => exact ih.of_suffix ⟨['\\', 'u', a, b, c, d], rfl⟩
  | case7 _ a b c d e rest _ _ _ _ _ _ ih =>
      exact (ih.of_suffix (List.drop_suffix 5 rest)).of_suffix ⟨['\\', 'u', a, b, c, d, e], rfl⟩
  -- An escape of one letter, and a character that stands for itself.
  | case11 _ c _ _ _ _ _ ih => exact ih.of_suffix ⟨['\\', c], rfl⟩
  | case14 _ c _ _ _ _ _ _ _ ih => exact ih.of_suffix (List.suffix_cons c _)

theorem digitsThen_suffix (text : List Char) : (digitsThen text).2 <:+ text := List.dropWhile_suffix _

theorem fraction?_suffix {digits : List Nat} {rest : List Char}
    (hfraction : fraction? text = some (digits, rest)) : rest <:+ text := by
  unfold fraction? at hfraction
  split at hfraction
  · next after =>
      simp only [Option.ite_none_left_eq_some, Option.some.injEq] at hfraction
      have hrest : (digitsThen after).2 = rest := congrArg Prod.snd hfraction.2
      rw [← hrest]
      exact (digitsThen_suffix after).trans (List.suffix_cons _ _)
  · cases hfraction

theorem splitSign_suffix (text : List Char) : (Number.splitSign text).2 <:+ text := by
  unfold Number.splitSign
  split
  · exact List.suffix_cons _ _
  · exact List.suffix_cons _ _
  · exact List.suffix_rfl

theorem exponent?_suffix {size : Int} {rest : List Char}
    (hexponent : exponent? text = some (size, rest)) : rest <:+ text := by
  unfold exponent? at hexponent
  split at hexponent
  · next mark after =>
      simp only [Option.ite_none_right_eq_some, Option.ite_none_left_eq_some, Option.some.injEq]
        at hexponent
      have hrest : (digitsThen (Number.splitSign after).2).2 = rest :=
        congrArg Prod.snd hexponent.2.2
      rw [← hrest]
      exact ((digitsThen_suffix _).trans (splitSign_suffix after)).trans (List.suffix_cons _ _)
  · cases hexponent

theorem wholeDigits?_suffix {digits : List Nat} {rest : List Char}
    (hwhole : wholeDigits? text = some (digits, rest)) : rest <:+ text := by
  unfold wholeDigits? at hwhole
  split at hwhole
  · cases hwhole
    exact List.suffix_cons _ _
  · simp only [Option.ite_none_left_eq_some, Option.some.injEq] at hwhole
    have hrest : (digitsThen text).2 = rest := congrArg Prod.snd hwhole.2
    rw [← hrest]
    exact digitsThen_suffix text

theorem splitMinus_suffix (text : List Char) : (splitMinus text).2 <:+ text := by
  unfold splitMinus
  split
  · exact List.suffix_cons _ _
  · exact List.suffix_rfl

theorem follows_finishNumber (depth : Nat) (negative : Bool) (whole : List Nat) (text : List Char) :
    Follows depth text (finishNumber negative whole text) := by
  have hfraction : ((fraction? text).map (·.2)).getD text <:+ text := by
    cases hfound : fraction? text with
    | none => exact List.suffix_rfl
    | some found => exact fraction?_suffix hfound
  unfold finishNumber
  simp only
  split
  · split
    · exact .tooLong _
    · exact .ok List.suffix_rfl
  · refine .ok ?_
    cases hfound : exponent? (((fraction? text).map (·.2)).getD text) with
    | none => exact hfraction
    | some found => exact (exponent?_suffix hfound).trans hfraction

theorem follows_readNumber (depth : Nat) (text : List Char) : Follows depth text (readNumber text) := by
  unfold readNumber
  simp only
  split
  · exact .malformed _ _
  · next whole afterWhole hwhole =>
      have hafter := (wholeDigits?_suffix hwhole).trans (splitMinus_suffix text)
      exact (follows_finishNumber depth _ whole afterWhole).of_suffix hafter

theorem readWord?_suffix {value : Json} {rest : List Char}
    (hword : readWord? text = some (value, rest)) : rest <:+ text := by
  obtain ⟨word, -, hfound⟩ := List.exists_of_findSome?_eq_some hword
  simp only [Option.ite_none_right_eq_some, Option.some.injEq, Prod.mk.injEq] at hfound
  rw [← hfound.2.2]
  exact List.drop_suffix _ _

/-! ### Containers -/

/-- What the reader's functions do with a fuel. -/
structure FollowsAll (fuel : Nat) : Prop where
  value : ∀ depth text, Follows depth text (readValue fuel depth text)
  items : ∀ depth done text, Follows depth text (readItems fuel depth done text)
  members : ∀ depth done text, Follows depth text (readMembers fuel depth done text)

/-- A value is a text, an object, a list, a word or a number. -/
theorem FollowsAll.readValue {fuel : Nat} (hall : FollowsAll fuel) (depth : Nat) (text : List Char) :
    Follows depth text (readValue (fuel + 1) depth text) := by
  rw [readValue.eq_def]
  simp only
  split
  · next rest =>
      have htext := follows_readText depth ('"' :: rest).length [] rest
      exact (htext.of_suffix (List.suffix_cons '"' rest)).map Json.string
  · next rest =>
      have hopening : isOpening '\x7b' = true := rfl
      split
      · exact .tooDeep (List.countP_pos_iff.mpr ⟨_, List.mem_cons_self, hopening⟩)
      · split
        · next hblanks => exact .ok (suffix_of_skipBlanks (List.suffix_cons _ rest) hblanks)
        · exact ((hall.members _ _ _).of_suffix (skipBlanks_suffix rest)).cons hopening
  · next rest =>
      have hopening : isOpening '[' = true := rfl
      split
      · exact .tooDeep (List.countP_pos_iff.mpr ⟨_, List.mem_cons_self, hopening⟩)
      · split
        · next hblanks => exact .ok (suffix_of_skipBlanks (List.suffix_cons _ rest) hblanks)
        · exact ((hall.items _ _ _).of_suffix (skipBlanks_suffix rest)).cons hopening
  · split
    · next found hword => exact .ok (readWord?_suffix hword)
    · exact follows_readNumber depth _

/-- After an item comes the end of the list, or a comma and more items. -/
theorem FollowsAll.readItems {fuel : Nat} (hall : FollowsAll fuel) (depth : Nat) (done : List Json)
    (text : List Char) : Follows depth text (readItems (fuel + 1) depth done text) := by
  rw [Json.readItems]
  have hitem := hall.value depth text
  split
  · next fault hread =>
      rw [hread] at hitem
      exact hitem.fault
  · next item rest hread =>
      rw [hread] at hitem
      split
      · next hblanks => exact .ok (suffix_of_skipBlanks hitem.suffix hblanks)
      · next others hblanks =>
          have hnext := suffix_of_skipBlanks hitem.suffix hblanks
          exact (hall.items _ _ _).of_suffix ((skipBlanks_suffix others).trans hnext)
      · exact .malformed _ _

/-- After a name, a colon and a value comes the end of the object, or a comma and more members. -/
theorem FollowsAll.readMembers {fuel : Nat} (hall : FollowsAll fuel) (depth : Nat)
    (done : List (String × Json)) (text : List Char) :
    Follows depth text (readMembers (fuel + 1) depth done text) := by
  -- Each part that is read ends behind the one before it, and a fault is passed on as it is.
  rw [readMembers.eq_def]
  simp only
  split
  · next start =>
      have hname := (follows_readText depth ('"' :: start).length [] start).of_suffix
        (List.suffix_cons '"' start)
      split
      · next fault hread =>
          rw [hread] at hname
          exact hname.fault
      · next name afterName hread =>
          rw [hread] at hname
          split
          · next afterColon hcolon =>
              have hcolonEnd := suffix_of_skipBlanks hname.suffix hcolon
              have hmember := (hall.value depth (skipBlanks afterColon)).of_suffix
                ((skipBlanks_suffix afterColon).trans hcolonEnd)
              split
              · next fault hvalue =>
                  rw [hvalue] at hmember
                  exact hmember.fault
              · next value rest hvalue =>
                  rw [hvalue] at hmember
                  split
                  · next hblanks => exact .ok (suffix_of_skipBlanks hmember.suffix hblanks)
                  · next others hblanks =>
                      have hnext := suffix_of_skipBlanks hmember.suffix hblanks
                      exact (hall.members _ _ _).of_suffix ((skipBlanks_suffix others).trans hnext)
                  · exact .malformed _ _
          · exact .malformed _ _
  · exact .malformed _ _

theorem followsAll (fuel : Nat) : FollowsAll fuel := by
  induction fuel with
  | zero => exact ⟨fun _ _ => .malformed _ _, fun _ _ _ => .malformed _ _, fun _ _ _ => .malformed _ _⟩
  | succ fuel ih => exact ⟨ih.readValue, ih.readItems, ih.readMembers⟩

/-! ### Whole texts -/

/-- A text that is nested too deeply has more brackets than containers may be open. -/
theorem lt_openings_of_tooDeep {text : String} {container : Container}
    (hread : read text = .error (.tooDeep container)) : depthLimit < openings text.toList := by
  unfold read readChars at hread
  split at hread
  · cases hread
  · have hvalue := (followsAll (2 * text.toList.length + 2)).value depthLimit (skipBlanks text.toList)
    have hlarger := hvalue.of_suffix (skipBlanks_suffix text.toList)
    split at hread
    · next fault hfault =>
        cases hread
        rw [hfault] at hlarger
        cases hlarger with
        | tooDeep hdeep => exact hdeep
    · split at hread
      · cases hread
      · cases hread

/-- Where too many brackets open one after another there is no need to look at what follows. -/
theorem readValue_brackets (fuel : Nat) {depth count : Nat} (hcount : depth < count)
    (hfuel : 2 * depth < fuel) (rest : List Char) :
    readValue fuel depth (List.replicate count '[' ++ rest) = .error (.tooDeep .list) := by
  induction depth generalizing fuel count with
  | zero =>
      obtain ⟨fuel, rfl⟩ : ∃ n, fuel = n + 1 := ⟨fuel - 1, by omega⟩
      obtain ⟨count, rfl⟩ : ∃ n, count = n + 1 := ⟨count - 1, by omega⟩
      rw [List.replicate_succ, List.cons_append, readValue]
  | succ depth ih =>
      obtain ⟨fuel, rfl⟩ : ∃ n, fuel = n + 2 := ⟨fuel - 2, by omega⟩
      obtain ⟨count, rfl⟩ : ∃ n, count = n + 2 := ⟨count - 2, by omega⟩
      have hnested : readValue fuel depth (List.replicate (count + 1) '[' ++ rest) =
          .error (.tooDeep .list) := ih fuel (by omega) (by omega)
      have hblanks : skipBlanks (List.replicate (count + 1) '[' ++ rest) =
          '[' :: (List.replicate count '[' ++ rest) := List.dropWhile_cons_of_neg (by decide)
      rw [List.replicate_succ, List.cons_append, readValue]
      simp only [hblanks]
      change readItems (fuel + 1) depth [] ('[' :: (List.replicate count '[' ++ rest)) = _
      rw [List.replicate_succ, List.cons_append] at hnested
      rw [readItems, hnested]

/-- A text that begins with more brackets than containers may be open is nested too deeply. -/
theorem read_brackets (count : Nat) (hcount : depthLimit < count) (rest : List Char) :
    read (String.ofList (List.replicate count '[' ++ rest)) = .error (.tooDeep .list) := by
  obtain ⟨more, rfl⟩ : ∃ n, count = n + 1 := ⟨count - 1, by omega⟩
  rw [read, String.toList_ofList]
  set text := List.replicate (more + 1) '[' ++ rest with htext
  have hcons : text = '[' :: (List.replicate more '[' ++ rest) := rfl
  have hblanks : skipBlanks text = text := by
    rw [hcons]
    exact List.dropWhile_cons_of_neg (by decide)
  have hlength : more + 1 ≤ text.length := by simp [htext]
  have hvalue := readValue_brackets (2 * text.length + 2) hcount (by omega) rest
  rw [readChars]
  · rw [hblanks, htext, hvalue]
  · intro tail hmark
    rw [hcons] at hmark
    exact absurd (List.cons.inj hmark).1 (by decide)

end TemplateWorkbench.Json
