import WorkflowClient.Proofs.LocalTokens

/-!
# Values do not depend on what they leave

Blanks in front of a part are taken with it. So items are local if the reader of the items is, up to
their closing bracket, and a reader of values is local since the one for the inner values is. The
stretch of every value ends with its last character that is no blank, whatever kind of blanks
follow.
-/

namespace WorkflowClient.Json

/-- Blanks that are passed over twice are passed over once. -/
theorem skipBlanks_skipBlanks (text : List Char) :
    skipBlanks (skipBlanks text) = skipBlanks text := by
  cases next : skipBlanks text with
  | nil => rfl
  | cons c rest => exact skipBlanks_cons (skipBlanks_visible next) rest

section Items

variable {α : Type} {brackets : Brackets} {item : Reader α}

/-- A closing bracket is visible. -/
theorem Brackets.Closes.notBlank (closes : brackets.Closes) :
    Text.isBlank brackets.close = false := by
  rcases closes with close | close
  · rw [close]
    decide
  · rw [close]
    decide

/-- An item behind a comma is taken with the blanks before it. -/
theorem itemBehindComma_local (reads : Local EndsVisibly item.read) :
    Local EndsVisibly (itemBehindComma brackets item) := by
  intro text
  apply localAt_behindBlanks
  · intro text
    rw [itemBehindComma, skipBlanks_skipBlanks, itemBehindComma]
  · exact ⟨_, rfl⟩
  · intro c rest begun _
    by_cases closed : c = brackets.close
    · apply localAt_fault
      rw [itemBehindComma, begun]
      exact if_pos closed
    · apply (reads (c :: rest)).congr_cons
      intro more
      rw [itemBehindComma, begun]
      exact if_neg closed

/-- The items behind the first one are taken with their closing bracket. -/
theorem itemsAfter_local (closes : brackets.Closes) (reads : Local EndsVisibly item.read) :
    Local EndsVisibly (itemsAfter brackets item) := by
  intro text
  -- The induction is on the length, since an item leaves less text.
  induction measured : text.length using Nat.strongRecOn generalizing text with
  | ind size inductionHypothesis =>
    subst measured
    apply localAt_behindBlanks
    · intro text
      rw [itemsAfter_eq, skipBlanks_skipBlanks, itemsAfter_eq brackets item text]
    · exact ⟨_, itemsAfter_eq brackets item []⟩
    · intro c rest begun less
      by_cases closed : c = brackets.close
      · apply localAt_visible (closed ▸ closes.notBlank)
        intro more
        exact itemsAfter_close (closed ▸ begun more)
      · by_cases comma : c = ','
        · have told (more : List Char) : itemsAfter brackets item (c :: more) =
              (itemBehindComma brackets item more).andThen fun value after =>
                Reading.prepend value (itemsAfter brackets item after) := by
            rw [itemsAfter_eq, begun]
            simp only [if_neg closed, if_pos comma]
            cases itemBehindComma brackets item more <;> rfl
          have behind : LocalAt EndsVisibly (fun more => itemsAfter brackets item (c :: more))
              rest := by
            refine (itemBehindComma_local reads rest).andThenVisibly told fun value after taken => ?_
            have shorter := itemBehindComma_length taken
            exact (inductionHypothesis after.length (by omega) after rfl).prepend value
          exact behind.behindAny fun _ => rfl
        · apply localAt_fault
          rw [itemsAfter_eq, begun]
          simp only [if_neg closed, if_neg comma]
          rfl

/-- Items are taken with their closing bracket. -/
theorem items_local (closes : brackets.Closes) (reads : Local EndsVisibly item.read) :
    Local EndsVisibly (items brackets item) := by
  intro text
  apply localAt_behindBlanks
  · intro text
    rw [items, skipBlanks_skipBlanks, items]
  · exact ⟨_, rfl⟩
  · intro c rest begun _
    by_cases closed : c = brackets.close
    · apply localAt_visible (closed ▸ closes.notBlank)
      intro more
      rw [items, begun]
      exact if_pos closed
    · have both : LocalAt EndsVisibly (fun text => (item.read text).andThen fun value after =>
          Reading.prepend value (itemsAfter brackets item after)) (c :: rest) :=
        (reads (c :: rest)).andThenVisibly (fun _ => rfl) fun value after _ =>
          (itemsAfter_local closes reads after).prepend value
      apply both.congr_cons
      intro more
      rw [items, begun]
      simp only [if_neg closed]
      cases item.read (c :: more) <;> rfl

/-- A value behind a colon is taken with the colon and the blanks before it. -/
theorem valueOfKey_local (reads : Local EndsVisibly item.read) :
    Local EndsVisibly (valueOfKey item) := by
  intro text
  apply localAt_behindBlanks
  · intro text
    rw [valueOfKey, skipBlanks_skipBlanks, valueOfKey]
  · exact ⟨_, rfl⟩
  · intro c rest begun _
    by_cases colon : c = ':'
    · apply (reads rest).behindAny
      intro more
      rw [valueOfKey, begun]
      exact if_pos colon
    · apply localAt_fault
      rw [valueOfKey, begun]
      exact if_neg colon

/-- A member is taken up to the end of its value. -/
theorem member_local (reads : Local EndsVisibly item.read) :
    Local EndsVisibly item.member.read := by
  intro text
  by_cases quote : ∃ rest, text = '"' :: rest
  · obtain ⟨rest, rfl⟩ := quote
    have told (more : List Char) : memberOf item ('"' :: more) =
        (quotedText more).andThen fun key after =>
          (valueOfKey item after).andThen fun value rest =>
            .ok ((String.ofList key, value), rest) := by
      rw [memberOf]
      cases quotedText more with
      | error fault => rfl
      | ok pair =>
        cases done : valueOfKey item pair.2 with
        | error fault => simp only [Reading.andThen, done]
        | ok read => simp only [Reading.andThen, done]
    have behind : LocalAt EndsVisibly (fun more => memberOf item ('"' :: more)) rest :=
      (quotedText_local rest).andThenVisibly told fun key after _ =>
        (valueOfKey_local reads after).image (fun value => (String.ofList key, value)) fun _ => rfl
    exact behind.behindAny fun _ => rfl
  · apply localAt_fault
    simp only [Reader.member, memberOf]
    split
    · next rest => exact absurd ⟨rest, rfl⟩ quote
    · rfl

end Items

section Values

/-- A word is taken as it is. -/
theorem word_taken {expected text rest : List Char} (read : word expected text = .ok rest) :
    text = expected ++ rest ∧ ∀ kept, word expected (expected ++ kept) = .ok kept := by
  fun_induction word expected text with
  | case1 text =>
    obtain rfl := Except.ok.inj read
    exact ⟨rfl, fun kept => rfl⟩
  | case2 => simp [atEnd] at read
  | case3 c others rest inductionHypothesis =>
    obtain ⟨rfl, cut⟩ := inductionHypothesis read
    refine ⟨rfl, fun kept => ?_⟩
    rw [List.cons_append, word, if_pos rfl]
    exact cut kept
  | case4 => simp [atNext] at read

/-- The letters of a word are taken. -/
theorem wordValue_local (value : Json) {expected : List Char} (plain : TakesPlain expected) :
    Local TakesPlain (wordValue value expected) := by
  intro text result rest done
  rw [wordValue] at done
  split at done
  · next taken =>
    obtain ⟨rfl, rfl⟩ := Prod.mk.inj (Except.ok.inj done)
    obtain ⟨whole, cut⟩ := word_taken taken
    refine ⟨expected, plain, whole, fun kept _ => ?_⟩
    rw [wordValue, cut]
  · simp at done

/-- The characters of a number are taken for its value. -/
theorem LocalAt.numberValue {Looks : List Char → Prop} {negative : Bool} {text : List Char}
    (reads : LocalAt Looks (numeral negative) text) : LocalAt Looks (numberValue negative) text := by
  apply reads.image Json.number
  intro text
  rw [Json.numberValue]
  cases numeral negative text <;> rfl

/-- A text is taken with its closing quotation mark. -/
theorem textValue_local : Local EndsVisibly textValue := by
  intro text
  apply (quotedText_local text).image (fun content => .string (String.ofList content))
  intro text
  rw [textValue]
  cases quotedText text <;> rfl

/-- A value without brackets is taken. -/
theorem scalar_local : Local EndsVisibly scalar := by
  intro text
  cases text with
  | nil => exact localAt_fault rfl
  | cons c rest =>
    have behind {read : List Char → Reading Json} (plain : Plain c) (reads : Local TakesPlain read)
        (told : ∀ more, scalar (c :: more) = read more) : LocalAt EndsVisibly scalar (c :: rest) :=
      (reads rest).behindFirst told fun taken others =>
        (TakesPlain.cons plain others).endsVisibly (List.cons_ne_nil c taken)
    by_cases null : c = 'n'
    · subst null
      exact behind (by decide) (wordValue_local .null (plain_of_all (by decide))) fun more => rfl
    by_cases yes : c = 't'
    · subst yes
      exact behind (by decide) (wordValue_local (.bool true) (plain_of_all (by decide))) fun more => rfl
    by_cases no : c = 'f'
    · subst no
      exact behind (by decide) (wordValue_local (.bool false) (plain_of_all (by decide))) fun more => rfl
    by_cases quote : c = '"'
    · subst quote
      exact (textValue_local rest).behindAny fun _ => rfl
    by_cases minus : c = '-'
    · subst minus
      exact behind (by decide) (fun text => (numeral_local true text).numberValue) fun more => rfl
    have other (more : List Char) : scalar (c :: more) =
        if c.isDigit then numberValue false (c :: more) else atNext .missingValue (c :: more) := by
      simp only [scalar, if_neg null, if_neg yes, if_neg no, if_neg quote, if_neg minus]
    by_cases digit : c.isDigit = true
    · have number := (numeral_local false (c :: rest)).endsVisibly numeral_length
      apply number.numberValue.congr_cons
      intro more
      rw [other, if_pos digit]
    · apply localAt_fault
      rw [other, if_neg digit]
      rfl

/-- A value is taken, if what stands between its brackets is. -/
theorem valueOver_local {inner : Option (Reader Json)}
    (reads : ∀ item, inner = some item → Local EndsVisibly item.read) :
    Local EndsVisibly (valueOver inner) := by
  intro text
  apply localAt_behindBlanks
  · intro text
    rw [valueOver, skipBlanks_skipBlanks, valueOver]
  · exact ⟨_, rfl⟩
  · intro c rest begun _
    by_cases list : c = '['
    · subst list
      cases inner with
      | none => exact localAt_fault rfl
      | some item =>
        have values := items_local Brackets.list_closes (reads item rfl) rest
        have behind : LocalAt EndsVisibly (fun more => valueOver (some item) ('[' :: more))
            rest := by
          apply values.image Json.list
          intro more
          rw [valueOver, begun]
          simp only [if_true]
          cases items .list item more <;> rfl
        exact behind.behindAny fun _ => rfl
    by_cases object : c = '\x7b'
    · subst object
      cases inner with
      | none => exact localAt_fault rfl
      | some item =>
        have members := items_local Brackets.object_closes (member_local (reads item rfl)) rest
        have behind : LocalAt EndsVisibly (fun more => valueOver (some item) ('\x7b' :: more))
            rest := by
          apply members.image (fun members => Json.object (Dictionary.ofList members))
          intro more
          rw [valueOver, begun]
          simp only [if_neg list, if_true]
          cases items .object item.member more <;> rfl
        exact behind.behindAny fun _ => rfl
    · apply (scalar_local (c :: rest)).congr_cons
      intro more
      rw [valueOver, begun]
      simp only [if_neg list, if_neg object]

/-- A value is taken up to a visible character, however many brackets may be open. -/
theorem value_local (depth : Nat) : Local EndsVisibly (Reader.value depth).read := by
  induction depth with
  | zero =>
    have closed : Local EndsVisibly (valueOver none) := valueOver_local (by simp)
    exact closed
  | succ depth inductionHypothesis =>
    have opened : Local EndsVisibly (valueOver (some (Reader.value depth))) := by
      apply valueOver_local
      rintro item opens
      obtain rfl := Option.some.inj opens
      exact inductionHypothesis
    exact opened

end Values

end WorkflowClient.Json
