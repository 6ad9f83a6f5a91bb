import WorkflowClient.CommandLine.Settings
import WorkflowClient.Proofs.ParsedValues
import WorkflowClient.Proofs.TokensReadBack

/-!
# Typed readings agree with the reading of any value

Three readings walk the same grammar: of any value, of an object of any values, and of an object of
texts. A typed reading agrees with the general one if it reads exactly what the general one reads as
a value of its own type, and leaves the same text. Agreement passes from the items to what stands
between brackets, so it holds of whole texts: blanks, escapes, what may follow, and how many
brackets may be open are judged alike.

What the typed readings return is told by the members of an object as they are written, with the
repetitions of a key. Of these the last one of each key stays; but all of them have been read, so a
text is no object of texts as soon as one member has another value, even if a later one takes its
place.
-/

namespace WorkflowClient

namespace Json

section Agreement

variable {α β : Type} {embed : α → β} {typed : Reading α} {general : Reading β}

/-- A typed reading reads exactly what the general one reads as a value of its own, and leaves the
same text. -/
def Agrees (embed : α → β) (typed : Reading α) (general : Reading β) : Prop :=
  ∀ value rest, typed = .ok (value, rest) ↔ general = .ok (embed value, rest)

/-- A typed reader agrees with a general one on every text. -/
def Reader.Narrows (typed : Reader α) (embed : α → β) (general : Reader β) : Prop :=
  ∀ text, Agrees embed (typed.read text) (general.read text)

/-- Two faults agree, whatever they are. -/
theorem agrees_faults (first second : Fault) : Agrees embed (.error first) (.error second) :=
  fun _ _ => ⟨nofun, nofun⟩

/-- Both readings have a value of the type, or the typed one fails and the general one has none of
the type. -/
theorem Agrees.both_or_neither (agrees : Agrees embed typed general) :
    (∃ value rest, typed = .ok (value, rest) ∧ general = .ok (embed value, rest)) ∨
      (∃ fault, typed = .error fault) ∧ ∀ value rest, general ≠ .ok (embed value, rest) := by
  cases read : typed with
  | ok pair =>
    obtain ⟨value, rest⟩ := pair
    exact .inl ⟨value, rest, rfl, (agrees value rest).mp read⟩
  | error fault =>
    refine .inr ⟨⟨fault, rfl⟩, ?_⟩
    intro value rest general
    cases read.symm.trans ((agrees value rest).mpr general)

end Agreement

section Items

variable {α β : Type} {embed : α → β} {typed : Reader α} {general : Reader β}

/-- Readings that agree still do with agreeing values in front. -/
theorem Agrees.prepend (injective : ∀ {a b}, embed a = embed b → a = b)
    {others : Reading (List α)} {generalOthers : Reading (List β)}
    (agrees : Agrees (List.map embed) others generalOthers) (value : α) :
    Agrees (List.map embed) (Reading.prepend value others)
      (Reading.prepend (embed value) generalOthers) := by
  intro values rest
  constructor
  · intro read
    obtain ⟨tail, ok, rfl⟩ := Reading.prepend_eq_ok read
    rw [(agrees tail rest).mp ok]
    rfl
  · intro read
    obtain ⟨tail, ok, made⟩ := Reading.prepend_eq_ok read
    obtain ⟨first, later, rfl, same, rfl⟩ := List.map_eq_cons_iff.mp made
    obtain rfl := injective same
    rw [(agrees later rest).mpr ok]
    rfl

/-- A value that is none of the type leaves none of the type in front of others. -/
theorem prepend_foreign {other : β} (foreign : ∀ value, other ≠ embed value)
    (others : Reading (List β)) (values : List α) (rest : List Char) :
    Reading.prepend other others ≠ .ok (values.map embed, rest) := by
  intro read
  obtain ⟨tail, -, made⟩ := Reading.prepend_eq_ok read
  obtain ⟨first, later, -, same, -⟩ := List.map_eq_cons_iff.mp made
  exact foreign first same.symm

/-- An item behind a comma is read alike. -/
theorem itemBehindComma_agrees (brackets : Brackets) (narrows : typed.Narrows embed general)
    (text : List Char) :
    Agrees embed (itemBehindComma brackets typed text)
      (itemBehindComma brackets general text) := by
  simp only [itemBehindComma]
  split
  · exact agrees_faults _ _
  · split
    · exact agrees_faults _ _
    · exact narrows _

/-- A first item with what is read behind it, or the fault of the item. -/
def Reading.cons (item : Reading α) (later : List Char → Reading (List α)) : Reading (List α) :=
  match item with
  | .error fault => .error fault
  | .ok (value, rest) => Reading.prepend value (later rest)

/-- An item with the items behind it is read alike, if both are. -/
theorem agrees_cons (injective : ∀ {a b}, embed a = embed b → a = b) {item : Reading α}
    {generalItem : Reading β} {later : List Char → Reading (List α)}
    {generalLater : List Char → Reading (List β)} (first : Agrees embed item generalItem)
    (others : ∀ value rest, item = .ok (value, rest) →
      Agrees (List.map embed) (later rest) (generalLater rest)) :
    Agrees (List.map embed) (item.cons later) (generalItem.cons generalLater) := by
  rcases first.both_or_neither with ⟨value, rest, read, generalRead⟩ | ⟨⟨fault, failed⟩, none⟩
  · rw [read, generalRead]
    exact (others value rest read).prepend injective value
  · -- The general reading may go on, but with a value that no list of the type begins with.
    rw [failed]
    cases generalRead : generalItem with
    | error generalFault => exact agrees_faults _ _
    | ok pair =>
      obtain ⟨other, rest⟩ := pair
      have foreign : ∀ value, other ≠ embed value := by
        rintro value rfl
        exact none value rest generalRead
      intro values left
      exact ⟨nofun, fun read => absurd read (prepend_foreign foreign _ values left)⟩

/-- The items behind the first one are read alike. -/
theorem itemsAfter_agrees (injective : ∀ {a b}, embed a = embed b → a = b) (brackets : Brackets)
    (narrows : typed.Narrows embed general) (text : List Char) :
    Agrees (List.map embed) (itemsAfter brackets typed text)
      (itemsAfter brackets general text) := by
  -- The induction is on the length, since every item leaves less text.
  induction measured : text.length using Nat.strongRecOn generalizing text with
  | ind size inductionHypothesis =>
    subst measured
    have skipped := skipBlanks_length text
    rw [itemsAfter_eq, itemsAfter_eq]
    split
    · exact agrees_faults _ _
    · next c rest next =>
      rw [next, List.length_cons] at skipped
      split
      · intro values left
        simp only [Except.ok.injEq, Prod.mk.injEq, List.nil_eq, List.map_eq_nil_iff]
      · split
        · refine agrees_cons injective (itemBehindComma_agrees brackets narrows rest) ?_
          intro value after taken
          have shorter := itemBehindComma_length taken
          exact inductionHypothesis after.length (by omega) after rfl
        · exact agrees_faults _ _

/-- The items between brackets are read alike. -/
theorem items_agrees (injective : ∀ {a b}, embed a = embed b → a = b) (brackets : Brackets)
    (narrows : typed.Narrows embed general) (text : List Char) :
    Agrees (List.map embed) (items brackets typed text) (items brackets general text) := by
  simp only [items]
  split
  · exact agrees_faults _ _
  · split
    · intro values left
      simp only [Except.ok.injEq, Prod.mk.injEq, List.nil_eq, List.map_eq_nil_iff]
    · refine agrees_cons injective (narrows _) ?_
      exact fun value rest _ => itemsAfter_agrees injective brackets narrows rest

/-- The value of a key is read alike. -/
theorem valueOfKey_agrees (narrows : typed.Narrows embed general) (text : List Char) :
    Agrees embed (valueOfKey typed text) (valueOfKey general text) := by
  simp only [valueOfKey]
  split
  · exact agrees_faults _ _
  · split
    · exact narrows _
    · exact agrees_faults _ _

/-- A value under the key that was read before it, or the fault of the value. -/
def Reading.named (key : String) (value : Reading α) : Reading (String × α) :=
  match value with
  | .error fault => .error fault
  | .ok (value, rest) => .ok ((key, value), rest)

/-- A value under a key is the value that was read. -/
theorem Reading.named_eq_ok_iff {key : String} {value : Reading α} {entry : String × α}
    {rest : List Char} :
    value.named key = .ok (entry, rest) ↔ key = entry.1 ∧ value = .ok (entry.2, rest) := by
  obtain ⟨name, held⟩ := entry
  cases value with
  | error fault => simp [named]
  | ok pair => simp [named, Prod.ext_iff, and_assoc]

/-- Members are read alike if their values are. -/
theorem member_narrows (narrows : typed.Narrows embed general) :
    typed.member.Narrows (fun entry => (entry.1, embed entry.2)) general.member := by
  have named (key : String) (text : List Char) :
      Agrees (fun entry => (entry.1, embed entry.2)) ((valueOfKey typed text).named key)
        ((valueOfKey general text).named key) := by
    intro entry rest
    rw [Reading.named_eq_ok_iff, Reading.named_eq_ok_iff,
      valueOfKey_agrees narrows text entry.2 rest]
  intro text
  simp only [Reader.member, memberOf]
  split
  · split
    · exact agrees_faults _ _
    · exact named _ _
  · exact agrees_faults _ _

end Items

section Texts

variable {text rest : List Char}

/-- A text is read behind its quotation mark and nowhere else. -/
theorem scalar_string_iff (c : Char) (content : String) :
    scalar (c :: text) = .ok (.string content, rest) ↔
      c = '"' ∧ textValue text = .ok (.string content, rest) := by
  have noWord {value : Json} {expected text : List Char}
      (notText : ∀ content, value ≠ .string content) :
      wordValue value expected text ≠ .ok (.string content, rest) := by
    intro read
    exact notText content (wordValue_yields read).symm
  have noNumber {negative : Bool} {text : List Char} :
      numberValue negative text ≠ .ok (.string content, rest) := by
    intro read
    obtain ⟨value, same⟩ := numberValue_yields read
    cases same
  constructor
  · -- Only the quotation mark leads to a text; the other beginnings lead to words and numbers.
    intro read
    simp only [scalar] at read
    split at read
    · exact absurd read (noWord fun _ => Json.noConfusion)
    · split at read
      · exact absurd read (noWord fun _ => Json.noConfusion)
      · split at read
        · exact absurd read (noWord fun _ => Json.noConfusion)
        · split at read
          · next quote => exact ⟨quote, read⟩
          · split at read
            · exact absurd read noNumber
            · split at read
              · exact absurd read noNumber
              · simp [atNext] at read
  · rintro ⟨rfl, read⟩
    exact read

/-- A value that is a text is read as a scalar, whatever may be open. -/
theorem valueOver_string_iff (inner : Option (Reader Json)) (content : String) :
    valueOver inner text = .ok (.string content, rest) ↔
      ∃ after, skipBlanks text = '"' :: after ∧ textValue after = .ok (.string content, rest) := by
  constructor
  · intro read
    cases valueOver_opened read with
    | @scalar c after _ next taken =>
      obtain ⟨rfl, quoted⟩ := (scalar_string_iff c content).mp taken
      exact ⟨after, next, quoted⟩
  · rintro ⟨after, next, read⟩
    have notList : '"' ≠ '[' := by decide
    have notObject : '"' ≠ '\x7b' := by decide
    simp only [valueOver, next, notList, notObject, if_false]
    exact (scalar_string_iff '"' content).mpr ⟨rfl, read⟩

/-- The reading of a text takes what is behind a quotation mark. -/
theorem plainText_eq_ok_iff (content : String) :
    plainText text = .ok (content, rest) ↔
      ∃ after, skipBlanks text = '"' :: after ∧ textValue after = .ok (.string content, rest) := by
  constructor
  · intro read
    simp only [plainText] at read
    split at read
    · next after next =>
      split at read
      · next taken =>
        obtain ⟨rfl, rfl⟩ := Prod.mk.inj (Except.ok.inj read)
        refine ⟨after, next, ?_⟩
        rw [textValue, taken]
      · cases read
    · exact absurd read mismatch_ne_ok
  · rintro ⟨after, next, read⟩
    rw [textValue] at read
    split at read
    · next taken =>
      obtain ⟨same, rfl⟩ := Prod.mk.inj (Except.ok.inj read)
      simp only [plainText, next, taken, Json.string.inj same]
    · cases read

/-- A text is read alike as a text and as any value, whatever may be open. -/
theorem plainText_narrows (depth : Nat) :
    Reader.plainText.Narrows .string (Reader.value depth) := by
  have each (inner : Option (Reader Json)) (text : List Char) :
      Agrees .string (plainText text) (valueOver inner text) := by
    intro content rest
    rw [plainText_eq_ok_iff, valueOver_string_iff]
  cases depth with
  | zero => exact each none
  | succ depth => exact each (some (Reader.value depth))

end Texts

section Objects

variable {α β : Type} {embed : α → β} {typed : Reader α} {general : Reader β}

/-- Objects are read alike if their values are, with every repetition of a key. -/
theorem objectOf_agrees (injective : ∀ {a b}, embed a = embed b → a = b)
    (narrows : typed.Narrows embed general) (text : List Char) :
    Agrees (Dictionary.mapValues embed) (objectOf typed text) (objectOf general text) := by
  have sameEntry {first second : String × α}
      (same : (first.1, embed first.2) = (second.1, embed second.2)) : first = second := by
    obtain ⟨keys, values⟩ := Prod.mk.inj same
    exact Prod.ext keys (injective values)
  simp only [objectOf]
  split
  · exact items_agrees sameEntry .object (member_narrows narrows) _
  · intro members rest
    exact ⟨(absurd · mismatch_ne_ok), (absurd · mismatch_ne_ok)⟩

/-- An object is read as any value with its written members, of which the last one of each key
stays. -/
theorem value_object_iff {depth : Nat} {text rest : List Char} {members : Dictionary Json} :
    (Reader.value (depth + 1)).read text = .ok (.object members, rest) ↔
      ∃ written, objectOf (Reader.value depth) text = .ok (written, rest) ∧
        Dictionary.ofList written = members := by
  have opened : (Reader.value (depth + 1)).read text = valueOver (some (Reader.value depth)) text :=
    rfl
  rw [opened]
  constructor
  · intro read
    cases valueOver_opened read with
    | @object item after written opens next taken =>
      obtain rfl := Option.some.inj opens
      refine ⟨written, ?_, rfl⟩
      simp only [objectOf, next]
      exact taken
    | scalar _ taken =>
      cases scalar_made none taken with
      | object opens => cases opens
  · rintro ⟨written, read, rfl⟩
    simp only [objectOf] at read
    split at read
    · next after next =>
      have notList : '\x7b' ≠ '[' := by decide
      simp only [valueOver, next, notList, if_false, if_true, read]
    · exact absurd read mismatch_ne_ok

end Objects

/-- The members of the object that a text writes, in the order of the text and with every repetition
of a key. -/
def writtenMembers (text : String) : Except ParseError (List (String × Json)) :=
  parseWith (objectOf (Reader.value (greatestDepth - 1))) text

/-- The reader of objects takes the written members, of which the last one of each key stays. -/
theorem parseObject_eq_ok_iff {text : String} {members : Dictionary Json} :
    parseObject text = .ok members ↔
      ∃ written, writtenMembers text = .ok written ∧ Dictionary.ofList written = members := by
  rw [parseObject, ← writtenMembers]
  cases writtenMembers text with
  | error error => simp [Except.map]
  | ok written => simp [Except.map]

/-- The reader of any value takes an object as the reader of objects does. -/
theorem parse_object_iff {text : String} {members : Dictionary Json} :
    parse text = .ok (.object members) ↔
      ∃ written, writtenMembers text = .ok written ∧ Dictionary.ofList written = members := by
  have depth : greatestDepth = greatestDepth - 1 + 1 := rfl
  rw [parse, parseWith_eq_ok_iff, depth]
  simp only [value_object_iff, writtenMembers, parseWith_eq_ok_iff]
  constructor
  · rintro ⟨rest, ⟨written, read, made⟩, ended⟩
    exact ⟨written, ⟨rest, read, ended⟩, made⟩
  · rintro ⟨written, ⟨rest, read, ended⟩, made⟩
    exact ⟨rest, ⟨written, read, made⟩, ended⟩

/-- The reader of objects of texts takes the written members if all of them are texts. -/
theorem parseTexts_eq_ok_iff {text : String} {texts : Dictionary String} :
    parseTexts text = .ok texts ↔
      ∃ written : List (String × String),
        writtenMembers text = .ok (Dictionary.mapValues .string written) ∧
          Dictionary.ofList written = texts := by
  have taken (written : List (String × String)) :
      writtenMembers text = .ok (Dictionary.mapValues .string written) ↔
        parseWith (objectOf Reader.plainText) text = .ok written := by
    simp only [writtenMembers, parseWith_eq_ok_iff]
    refine exists_congr fun rest => and_congr_left fun _ => ?_
    exact (objectOf_agrees Json.string.inj (plainText_narrows _) text.toList written rest).symm
  simp only [taken]
  rw [parseTexts]
  cases parseWith (objectOf Reader.plainText) text with
  | error error => simp [Except.map]
  | ok written => simp [Except.map]

end Json

/-- Credentials are read from the written members if all of them are texts; of equal names the last
one stays. -/
theorem Credentials.parse_eq_ok_iff {text : String} {credentials : Credentials} :
    Credentials.parse text = .ok credentials ↔
      ∃ written : List (String × String),
        Json.writtenMembers text = .ok (Dictionary.mapValues .string written) ∧
          Credentials.ofList written = credentials := by
  have again (written : List (String × String)) :
      ofList (Dictionary.ofList written) = ofList written := by
    simp only [ofList, Dictionary.ofList_ascending (Dictionary.ascending_ofList written)]
  have read : Credentials.parse text = .ok credentials ↔
      ∃ texts, Json.parseTexts text = .ok texts ∧ ofList texts = credentials := by
    rw [Credentials.parse]
    cases Json.parseTexts text with
    | error error => simp [Except.map]
    | ok texts => simp [Except.map]
  simp only [read, Json.parseTexts_eq_ok_iff]
  constructor
  · rintro ⟨texts, ⟨written, taken, rfl⟩, rfl⟩
    exact ⟨written, taken, (again written).symm⟩
  · rintro ⟨written, taken, rfl⟩
    exact ⟨Dictionary.ofList written, ⟨written, taken, rfl⟩, again written⟩

/-- Credentials that are read are the members of an object that is read, all of them texts. -/
theorem Credentials.object_of_parse {text : String} {credentials : Credentials}
    (read : Credentials.parse text = .ok credentials) :
    Json.parse text = .ok (.object (credentials.entries.mapValues .string)) := by
  obtain ⟨written, taken, rfl⟩ := Credentials.parse_eq_ok_iff.mp read
  exact Json.parse_object_iff.mpr ⟨_, taken, Dictionary.ofList_mapValues Json.string written⟩

/-- The fields of a workflow query are taken from exactly those texts that write an object, and are
its members. Credentials are taken only from texts that write an object, and are its members, all of
them texts; and they are taken from every text that writes an object with texts alone, where a
member counts even if a later one takes its place. -/
theorem typed_readings_agree (text : String) :
    (∀ members, CommandLine.dataOf (some text) = .ok (some members) ↔
        Json.parse text = .ok (.object members)) ∧
      (∀ credentials, Credentials.parse text = .ok credentials →
        Json.parse text = .ok (.object (credentials.entries.mapValues .string))) ∧
      ∀ members, Json.parse text = .ok (.object members) →
        ∃ written, Json.writtenMembers text = .ok written ∧ Dictionary.ofList written = members ∧
          ((∃ credentials, Credentials.parse text = .ok credentials) ↔
            ∀ entry ∈ written, ∃ content, entry.2 = .string content) := by
  refine ⟨?_, ?_, ?_⟩
  · intro members
    rw [Json.parse_object_iff, ← Json.parseObject_eq_ok_iff, CommandLine.dataOf]
    cases Json.parseObject text with
    | error error => simp
    | ok fields => simp
  · exact fun credentials read => Credentials.object_of_parse read
  · intro members read
    obtain ⟨written, taken, made⟩ := Json.parse_object_iff.mp read
    refine ⟨written, taken, made, ?_⟩
    simp only [Credentials.parse_eq_ok_iff, taken, Except.ok.injEq]
    rw [← Dictionary.exists_mapValues_iff]
    constructor
    · rintro ⟨_, entries, same, -⟩
      exact ⟨entries, same.symm⟩
    · rintro ⟨entries, same⟩
      exact ⟨_, entries, same.symm, rfl⟩

end WorkflowClient
